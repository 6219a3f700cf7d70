import UCLinux.Machine.Paths
import UCLinux.Phones.Downloads
import UCLinux.Sip.Text

/-!
The files that a client names. A phone names the file of a download, a web page
the file of a photo that it uploads, a map the file of a font. The server puts
the name behind the directory of the kind and opens what comes out. Some names
of downloads go to `prcd` instead, and what that opens for a name is a parameter
throughout.
-/

namespace UCLinux.Web

open Sql
open Machine (NetSteps PathStep Inside netSteps pathStep pathSteps resolve inside_append_iff
  pathSteps_append pathSteps_of_no_slash)
open Ocpp (Bytes wrap32)
open Phones
open Sip (find containSubstr)

section Directories

/-- A text that names can be put behind: it ends in a slash and holds no NUL. -/
structure IsDirectory (dir : Text) : Prop where
  slashed : dir.getLast? = some '/'
  plain : '\x00' ∉ dir

/-- A name does not leave a directory it stands behind, or enters it again. -/
def Kept (dir name : Text) : Prop := (netSteps (pathSteps name)).Returns (resolve dir)

instance (dir name : Text) : Decidable (Kept dir name) :=
  inferInstanceAs (Decidable (NetSteps.Returns _ _))

variable {dir name : Text}

theorem IsDirectory.inside_iff (h : IsDirectory dir) :
    Inside dir (dir ++ name) ↔ Kept dir name := by
  obtain ⟨d, hd⟩ := List.getLast?_eq_some_iff.mp h.slashed
  exact inside_append_iff hd

/-- A NUL cuts a path in the name. -/
theorem IsDirectory.cstr_append (h : IsDirectory dir) : cstr (dir ++ name) = dir ++ cstr name :=
  cstr_append_of_not_mem h.plain

/-- A path that is cut leads inside when the name that is cut does. -/
theorem IsDirectory.inside_cstr_iff (h : IsDirectory dir) :
    Inside dir (cstr (dir ++ name)) ↔ Kept dir (cstr name) := by
  rw [h.cstr_append, h.inside_iff]

theorem kept_of_levels (h : (netSteps (pathSteps name)).levels = 0) : Kept dir name :=
  NetSteps.returns_of_levels h _

end Directories

section Downloads

variable (prcdOpens : FileSystem → Text → List Text)

/-- Every type that has a directory puts the name behind it. -/
theorem isDirectory_of_fileDirectory {fileType : Nat} {filename dir : Text}
    (h : dir ∈ fileDirectory fileType filename) : IsDirectory dir := by
  obtain ⟨t, _, ht⟩ := Option.bind_eq_some_iff.mp h
  have hvehicle : IsDirectory mediaVeh := ⟨by decide, by decide⟩
  have htiles : IsDirectory (udorxMapDataDownloadRoot ++ "/tiles/") := ⟨by decide, by decide⟩
  have hrouting : IsDirectory (udorxMapDataDownloadRoot ++ "/routing/") := ⟨by decide, by decide⟩
  have hgeocoder : IsDirectory (udorxMapDataDownloadRoot ++ "/geocoder/") :=
    ⟨by decide, by decide⟩
  have hfirmware : IsDirectory (udorxFirmwareDataDownloadRoot ++ "/firmware/") :=
    ⟨by decide, by decide⟩
  cases t with
  | mediaFileVehicleImage => exact Option.some.inj ht ▸ hvehicle
  | bigMapTileFileDownload => exact Option.some.inj ht ▸ htiles
  | bigRouteTileFileDownload => exact Option.some.inj ht ▸ hrouting
  | bigGeocoderFileDownload => exact Option.some.inj ht ▸ hgeocoder
  | bigMediaFileDownload =>
    have hpictures : IsDirectory (mediaDirectory ++ "/pictures/") := ⟨by decide, by decide⟩
    have haudio : IsDirectory (mediaDirectory ++ "/audio/") := ⟨by decide, by decide⟩
    have hvideo : IsDirectory (mediaDirectory ++ "/video/") := ⟨by decide, by decide⟩
    unfold DownloadFileTypeEnum.directory at ht
    split_ifs at ht
    · exact Option.some.inj ht ▸ hpictures
    · exact Option.some.inj ht ▸ haudio
    · exact Option.some.inj ht ▸ hvideo
  | bigMediaFileDownloadFwCpu => exact Option.some.inj ht ▸ hfirmware
  | bigMediaFileDownloadFwFraphics => exact Option.some.inj ht ▸ hfirmware
  | bigMediaFileDownloadFwEsp32 => exact Option.some.inj ht ▸ hfirmware
  | mediaFileNone | mediaFileInspectionImage | mediaFileMobileworkerImage | mediaFileMsgImage
  | mediaFileMsgAudio | mediaFileMsgVideo | ptripDownload => cases ht

/-- The paths that `download_file_from_server` opens; `none` when the path does
not fit its array. A file without a size is not opened. -/
def downloadOpens (fs : FileSystem) (fname : Text) (fileType : Nat) : Option (List Text) :=
  if fname = [] then some []
  else if TakesPrcd fname then some (prcdOpens fs fname)
  else (createPathForMediaFile fileType fname).map fun path =>
    if wrap32 (fileSize fs path) ≤ 0 then [] else [path]

/-- A path fits its array for what is opened exactly when it does for what is
sent. -/
theorem downloadOpens_isSome (fs : FileSystem) (prcd : Text → Int) (fname : Text)
    (fileType : Nat) : (downloadOpens prcdOpens fs fname fileType).isSome =
      (downloadFileFromServer fs prcd fname fileType).isSome := by
  unfold downloadOpens downloadFileFromServer
  by_cases hname : fname = []
  · rw [if_pos hname, if_pos hname]
    rfl
  · by_cases hprcd : TakesPrcd fname
    · rw [if_neg hname, if_pos hprcd, if_neg hname, if_pos hprcd]
      rfl
    · rw [if_neg hname, if_neg hprcd, if_neg hname, if_neg hprcd, Option.isSome_map,
        Option.isSome_map]

end Downloads

section Tiles

def mapDataOffline : Text := "/home/mkr/service/map_data/offline/"

def mapDataOfflineFonts : Text := "/home/mkr/service/map_data/offline/fonts/"

def fontsDirList : List Text :=
  ["Open%20Sans%20Bold,Arial%20Unicode%20MS%20Bold",
    "Open%20Sans%20Italic,Arial%20Unicode%20MS%20Regular",
    "Open%20Sans%20Regular,Arial%20Unicode%20MS%20Regular",
    "Open%20Sans%20Semibold,Arial%20Unicode%20MS%20Bold"]

def getExtFromFileName (fileName : Text) : Text :=
  if '.' ∈ fileName then (fileName.reverse.takeWhile (· ≠ '.')).reverse else []

/-- What stands behind the first delimiter, up to the second one if it comes
later. -/
def extractSubStr (s delim1 delim2 : Text) : Text :=
  match find delim1 s, find delim2 s with
  | some ind1, some ind2 =>
    let start := ind1 + delim1.length
    if start ≤ ind2 then (s.drop start).take (ind2 - start) else s.drop start
  | some ind1, none => s.drop (ind1 + delim1.length)
  | none, _ => []

/-- A path is split at its last slash. -/
def splitFilename2Dir (fullPath : Text) : Option (Text × Text) :=
  let filename := (fullPath.reverse.takeWhile (· ≠ '/')).reverse
  if '/' ∈ fullPath then
    some (fullPath.take (fullPath.length - (filename.length + 1)), filename)
  else none

/-- The path below the fonts that is read. For a file that is not there the last
directory of the list is taken whose name holds the one asked for. -/
def fontPath (fs : FileSystem) (path : Text) : Option Text :=
  if (fs (cstr (mapDataOfflineFonts ++ path))).isSome then some path
  else (splitFilename2Dir path).bind fun (dir, filename) =>
    (fontsDirList.filter fun s => containSubstr s dir).getLast?.map (· ++ '/' :: filename)

inductive TileSource where
  | tiles
  | satellite
  | file (path : Text)
  deriving DecidableEq, Repr

/-- Where `tile_server_process_request` takes the bytes from; `none` when the
request is not one of its own. -/
def tileServerProcessRequest (fs : FileSystem) (reqPath reqExt : Text) : Option TileSource :=
  if reqExt = "pbf" then
    if containSubstr reqPath "tiles" then some .tiles
    else if containSubstr reqPath "fonts/mikerel" then
      let path := extractSubStr reqPath "fonts/mikerel/" "?"
      if path = [] then none
      else (fontPath fs path).map fun path => .file (mapDataOfflineFonts ++ path)
    else none
  else if reqExt = "webp" ∧ containSubstr reqPath "sat" then some .satellite
  else if containSubstr reqPath "sprite/sprite@2x.json" ∨
      containSubstr reqPath "sprite/sprite.json" then
    some (.file (mapDataOffline ++ "sprite@2x.json"))
  else if containSubstr reqPath "sprite/sprite@2x.png" ∨
      containSubstr reqPath "sprite/sprite.png" then
    some (.file (mapDataOffline ++ "sprite@2x.png"))
  else none

def TileSource.opens : TileSource → List Text
  | .tiles | .satellite => []
  | .file path => [cstr path]

/-- The paths that are opened for a path of the web server. -/
def tileOpens (fs : FileSystem) (reqPath : Text) : List Text :=
  (tileServerProcessRequest fs reqPath (getExtFromFileName reqPath)).elim [] TileSource.opens

def tileDirectory (reqPath : Text) : Text :=
  if getExtFromFileName reqPath = "pbf" then mapDataOfflineFonts else mapDataOffline

/-- The path asks for a font. -/
def AsksFont (reqPath : Text) : Prop :=
  getExtFromFileName reqPath = "pbf" ∧ ¬containSubstr reqPath "tiles" ∧
    containSubstr reqPath "fonts/mikerel"

instance (reqPath : Text) : Decidable (AsksFont reqPath) :=
  inferInstanceAs (Decidable (_ ∧ _ ∧ _))

/-- The name of the font that a path asks for. -/
def fontName (reqPath : Text) : Text := extractSubStr reqPath "fonts/mikerel/" "?"

theorem isDirectory_mapDataOffline : IsDirectory mapDataOffline := ⟨by decide, by decide⟩

theorem isDirectory_mapDataOfflineFonts : IsDirectory mapDataOfflineFonts :=
  ⟨by decide, by decide⟩

variable {fs : FileSystem} {path filename dir reqPath : Text}

theorem splitFilename2Dir_filename (h : splitFilename2Dir path = some (dir, filename)) :
    '/' ∉ filename := by
  unfold splitFilename2Dir at h
  split_ifs at h
  obtain ⟨_, rfl⟩ := Prod.mk.inj (Option.some.inj h)
  intro hmem
  have hne := List.mem_takeWhile_imp (List.mem_reverse.mp hmem)
  exact of_decide_eq_true hne rfl

theorem fontsDirList_plain {s : Text} (hs : s ∈ fontsDirList) :
    '/' ∉ s ∧ '\x00' ∉ s ∧ pathStep s = some (.enter s) := by
  revert s
  decide +kernel

/-- A file in a directory of the list stays below the fonts. -/
theorem kept_listed {s : Text} (hs : s ∈ fontsDirList) (h : '/' ∉ filename) :
    Kept mapDataOfflineFonts (cstr (s ++ '/' :: filename)) := by
  obtain ⟨hslash, hplain, hstep⟩ := fontsDirList_plain hs
  have hdir : IsDirectory (s ++ ['/']) := by
    refine ⟨List.getLast?_concat, fun hmem => ?_⟩
    rcases List.mem_append.mp hmem with hin | hin
    · exact hplain hin
    · exact absurd (List.mem_singleton.mp hin) (by decide)
  have hcut : '/' ∉ cstr filename := fun hmem => h (mem_of_mem_cstr hmem)
  rw [← List.singleton_append, ← List.append_assoc, hdir.cstr_append, List.append_assoc,
    List.singleton_append]
  apply kept_of_levels
  rw [pathSteps_append, pathSteps_of_no_slash hslash, pathSteps_of_no_slash hcut, hstep]
  exact Machine.levels_entered s _

/-- A font that is read lies below the fonts when it is there under a name that
stays below them, or when it is not there. -/
theorem kept_fontPath {font : Text} (hfont : fontPath fs path = some font)
    (hkept : (fs (cstr (mapDataOfflineFonts ++ path))).isSome →
      Kept mapDataOfflineFonts (cstr path)) : Kept mapDataOfflineFonts (cstr font) := by
  unfold fontPath at hfont
  split_ifs at hfont with hthere
  · obtain rfl := Option.some.inj hfont
    exact hkept hthere
  · obtain ⟨⟨dir, filename⟩, hsplit, hlisted⟩ := Option.bind_eq_some_iff.mp hfont
    obtain ⟨s, hlast, rfl⟩ := Option.map_eq_some_iff.mp hlisted
    have hs := (List.mem_filter.mp (List.mem_of_getLast? hlast)).1
    exact kept_listed hs (splitFilename2Dir_filename hsplit)

theorem tileOpens_font (h : AsksFont reqPath) : tileOpens fs reqPath =
    if fontName reqPath = [] then []
    else (fontPath fs (fontName reqPath)).elim [] fun path =>
      [cstr (mapDataOfflineFonts ++ path)] := by
  obtain ⟨hext, htiles, hfonts⟩ := h
  unfold tileOpens tileServerProcessRequest
  rw [if_pos hext, if_neg htiles, if_pos hfonts]
  dsimp only
  unfold fontName
  split_ifs
  · rfl
  · cases fontPath fs (extractSubStr reqPath "fonts/mikerel/" "?") <;> rfl

/-- What is opened for another path is a file of the sprites. -/
theorem inside_of_mem_tileOpens (h : ¬AsksFont reqPath) (hpath : path ∈ tileOpens fs reqPath) :
    Inside (tileDirectory reqPath) path := by
  have hsprite {name : Text} (hkept : Kept mapDataOffline (cstr name)) :
      Inside mapDataOffline (cstr (mapDataOffline ++ name)) :=
    isDirectory_mapDataOffline.inside_cstr_iff.mpr hkept
  unfold tileOpens tileServerProcessRequest at hpath
  unfold tileDirectory
  by_cases hext : getExtFromFileName reqPath = "pbf"
  · rw [if_pos hext] at hpath
    split_ifs at hpath with htiles hfonts
    · cases hpath
    · exact absurd ⟨hext, htiles, hfonts⟩ h
    · cases hpath
  · rw [if_neg hext] at hpath ⊢
    split_ifs at hpath
    · cases hpath
    · obtain rfl := List.mem_singleton.mp hpath
      exact hsprite (by decide)
    · obtain rfl := List.mem_singleton.mp hpath
      exact hsprite (by decide)
    · cases hpath

end Tiles

section Uploads

def webResImgDir : Text := "/home/mkr/www/media/resImg/"

def webQrcodeImgDir : Text := "/home/mkr/www/media/qrcodes/"

def uploadDirectory (reqn : Int) : Text := if reqn = 26 then webQrcodeImgDir else webResImgDir

/-- The path that `processUploadPhotoWS` writes to. -/
def uploadOpens (reqn : Int) (user : Text) : List Text := [cstr (uploadDirectory reqn ++ user)]

theorem isDirectory_uploadDirectory (reqn : Int) : IsDirectory (uploadDirectory reqn) := by
  unfold uploadDirectory
  split
  · exact ⟨by decide, by decide⟩
  · exact ⟨by decide, by decide⟩

end Uploads

section Requests

/-- The requests that name a file. The path of a tile request is that of the
URL. -/
inductive FileRequest where
  | download (p : DownloadPacket) (behind : Bytes)
  | uploadPhoto (reqn : Int) (user : Text)
  | tile (reqPath : Text)

namespace FileRequest

variable (prcdOpens : FileSystem → Text → List Text)

/-- The paths that are opened; `none` when one is written past its array. -/
def opens (fs : FileSystem) : FileRequest → Option (List Text)
  | download p behind => downloadOpens prcdOpens fs (p.fname behind) p.fileType
  | uploadPhoto reqn user => some (uploadOpens reqn user)
  | tile reqPath => some (tileOpens fs reqPath)

/-- The directory of the kind of file. -/
def directory : FileRequest → Option Text
  | download p behind => fileDirectory p.fileType (p.fname behind)
  | uploadPhoto reqn _ => some (uploadDirectory reqn)
  | tile reqPath => some (tileDirectory reqPath)

/-- On every file system, where the empty path is nothing, the paths fit and lead
into the directory. -/
def Confined (r : FileRequest) : Prop :=
  ∀ fs : FileSystem, fs [] = none → ∃ paths, r.opens prcdOpens fs = some paths ∧
    ∀ path ∈ paths, ∃ dir ∈ r.directory, Inside dir path

/-- What `prcd` opens for a name lies in the directory of the type. -/
def PrcdConfined (fname : Text) (fileType : Nat) : Prop :=
  ∀ fs : FileSystem, fs [] = none → ∀ path ∈ prcdOpens fs fname,
    ∃ dir ∈ fileDirectory fileType fname, Inside dir path

/-- There is no name, or one for which `prcd` stays in the directory, or one that
fits and does not leave it. -/
def PlainDownload (fname : Text) (fileType : Nat) : Prop :=
  fname = [] ∨
  if TakesPrcd fname then PrcdConfined prcdOpens fname fileType
  else PathFits fileType fname ∧ ∀ dir ∈ fileDirectory fileType fname, Kept dir fname

/-- The name does not lead out of the directory of its kind. -/
def Plain : FileRequest → Prop
  | download p behind => PlainDownload prcdOpens (p.fname behind) p.fileType
  | uploadPhoto reqn user => Kept (uploadDirectory reqn) (cstr user)
  | tile reqPath => AsksFont reqPath → Kept mapDataOfflineFonts (cstr (fontName reqPath))

end FileRequest

/-- Every path is a file of one byte. -/
def fullFiles : FileSystem := fun path =>
  if path = [] then none else some ⟨1, some ⟨[0#8], false⟩⟩

section Confined

variable {prcdOpens : FileSystem → Text → List Text} {fs : FileSystem} {fname dir path : Text}
  {fileType : Nat}

theorem mediaPath_of_directory (h : fileDirectory fileType fname = some dir) :
    mediaPath fileType fname = dir ++ fname := by
  unfold mediaPath
  rw [h]
  rfl

variable (prcdOpens fs) in
theorem downloadOpens_of_fits (hname : fname ≠ []) (hprcd : ¬TakesPrcd fname)
    (hfits : PathFits fileType fname) : downloadOpens prcdOpens fs fname fileType =
      some (if wrap32 (fileSize fs (mediaPath fileType fname)) ≤ 0 then []
        else [mediaPath fileType fname]) := by
  unfold downloadOpens createPathForMediaFile
  rw [if_neg hname, if_neg hprcd, if_pos hfits]
  rfl

theorem downloadOpens_of_prcd (hname : fname ≠ []) (hprcd : TakesPrcd fname) :
    downloadOpens prcdOpens fs fname fileType = some (prcdOpens fs fname) := by
  unfold downloadOpens
  rw [if_neg hname, if_pos hprcd]

/-- A path that does not fit is written past the array. -/
theorem fits_of_downloadOpens {paths : List Text} (hname : fname ≠ []) (hprcd : ¬TakesPrcd fname)
    (h : downloadOpens prcdOpens fs fname fileType = some paths) : PathFits fileType fname := by
  unfold downloadOpens createPathForMediaFile at h
  rw [if_neg hname, if_neg hprcd] at h
  by_contra hlong
  rw [if_neg hlong] at h
  cases h

/-- A path that is opened without `prcd` is that of the file, and not empty. -/
theorem mem_downloadOpens {paths : List Text} (hempty : fs [] = none) (hname : fname ≠ [])
    (hprcd : ¬TakesPrcd fname) (h : downloadOpens prcdOpens fs fname fileType = some paths)
    (hpath : path ∈ paths) : path = mediaPath fileType fname ∧ path ≠ [] := by
  rw [downloadOpens_of_fits prcdOpens fs hname hprcd (fits_of_downloadOpens hname hprcd h)] at h
  obtain rfl := Option.some.inj h
  split_ifs at hpath with hsize
  · cases hpath
  · obtain rfl := List.mem_singleton.mp hpath
    refine ⟨rfl, fun hnil => hsize ?_⟩
    unfold fileSize
    rw [hnil, hempty]
    decide

theorem IsDirectory.append_ne_nil (h : IsDirectory dir) : dir ++ fname ≠ [] := by
  intro hnil
  have hslash := h.slashed
  rw [(List.append_eq_nil_iff.mp hnil).1] at hslash
  cases hslash

/-- With a file under every path the one asked for is opened. -/
theorem mem_downloadOpens_full {paths : List Text} (hname : fname ≠ [])
    (hprcd : ¬TakesPrcd fname) (hdir : dir ∈ fileDirectory fileType fname)
    (h : downloadOpens prcdOpens fullFiles fname fileType = some paths) :
    dir ++ fname ∈ paths := by
  have hsize : ¬wrap32 (fileSize fullFiles (dir ++ fname)) ≤ 0 := by
    unfold fileSize fullFiles
    rw [if_neg (isDirectory_of_fileDirectory hdir).append_ne_nil]
    decide
  rw [downloadOpens_of_fits prcdOpens fullFiles hname hprcd (fits_of_downloadOpens hname hprcd h),
    mediaPath_of_directory hdir, if_neg hsize] at h
  obtain rfl := Option.some.inj h
  exact List.mem_singleton_self _

theorem download_confined_iff (p : DownloadPacket) (behind : Bytes) :
    (FileRequest.download p behind).Confined prcdOpens ↔
      (FileRequest.download p behind).Plain prcdOpens := by
  by_cases hname : p.fname behind = []
  · have hpaths (fs : FileSystem) :
        (FileRequest.download p behind).opens prcdOpens fs = some [] := if_pos hname
    exact iff_of_true (fun fs _ => ⟨[], hpaths fs, fun path hpath => by cases hpath⟩)
      (Or.inl hname)
  by_cases hprcd : TakesPrcd (p.fname behind)
  · have hpaths (fs : FileSystem) : (FileRequest.download p behind).opens prcdOpens fs =
        some (prcdOpens fs (p.fname behind)) := downloadOpens_of_prcd hname hprcd
    show _ ↔ FileRequest.PlainDownload _ _ _
    unfold FileRequest.PlainDownload
    rw [or_iff_right hname, if_pos hprcd]
    refine forall_congr' fun fs => imp_congr_right fun _ => ?_
    rw [hpaths fs]
    constructor
    · rintro ⟨paths, hsome, hinside⟩
      cases hsome
      exact hinside
    · exact fun hinside => ⟨_, rfl, hinside⟩
  show _ ↔ FileRequest.PlainDownload _ _ _
  unfold FileRequest.PlainDownload
  rw [or_iff_right hname, if_neg hprcd]
  constructor
  · intro hconfined
    obtain ⟨paths, hpaths, hinside⟩ := hconfined fullFiles rfl
    refine ⟨fits_of_downloadOpens hname hprcd hpaths, fun dir hdir => ?_⟩
    obtain ⟨dir', hdir', hin⟩ := hinside _ (mem_downloadOpens_full hname hprcd hdir hpaths)
    obtain rfl : dir = dir' := Option.some.inj (hdir.symm.trans hdir')
    exact (isDirectory_of_fileDirectory hdir).inside_iff.mp hin
  · rintro ⟨hfits, hkept⟩ fs hempty
    have hpaths := downloadOpens_of_fits prcdOpens fs hname hprcd hfits
    refine ⟨_, hpaths, fun path hpath => ?_⟩
    obtain ⟨rfl, hne⟩ := mem_downloadOpens hempty hname hprcd hpaths hpath
    cases hdir : fileDirectory p.fileType (p.fname behind) with
    | none =>
      refine absurd ?_ hne
      unfold mediaPath
      rw [hdir]
      rfl
    | some dir =>
      refine ⟨dir, hdir, ?_⟩
      rw [mediaPath_of_directory hdir]
      exact (isDirectory_of_fileDirectory hdir).inside_iff.mpr (hkept dir hdir)

theorem uploadPhoto_confined_iff (reqn : Int) (user : Text) :
    (FileRequest.uploadPhoto reqn user).Confined prcdOpens ↔
      (FileRequest.uploadPhoto reqn user).Plain prcdOpens := by
  have hinside : Inside (uploadDirectory reqn) (cstr (uploadDirectory reqn ++ user)) ↔
      Kept (uploadDirectory reqn) (cstr user) :=
    (isDirectory_uploadDirectory reqn).inside_cstr_iff
  constructor
  · intro hconfined
    obtain ⟨paths, hpaths, hin⟩ := hconfined fullFiles rfl
    obtain rfl := Option.some.inj hpaths
    obtain ⟨dir, hdir, hpath⟩ := hin _ (List.mem_singleton_self _)
    obtain rfl := Option.some.inj hdir
    exact hinside.mp hpath
  · intro hplain fs _
    refine ⟨_, rfl, fun path hpath => ⟨uploadDirectory reqn, rfl, ?_⟩⟩
    obtain rfl := List.mem_singleton.mp hpath
    exact hinside.mpr hplain

/-- With a file under every path the font asked for is opened. -/
theorem tileOpens_full {reqPath : Text} (hfont : AsksFont reqPath) (hname : fontName reqPath ≠ []) :
    tileOpens fullFiles reqPath = [cstr (mapDataOfflineFonts ++ fontName reqPath)] := by
  have hthere : (fullFiles (cstr (mapDataOfflineFonts ++ fontName reqPath))).isSome := by
    unfold fullFiles
    rw [isDirectory_mapDataOfflineFonts.cstr_append,
      if_neg isDirectory_mapDataOfflineFonts.append_ne_nil]
    rfl
  rw [tileOpens_font hfont, if_neg hname]
  unfold fontPath
  rw [if_pos hthere]
  rfl

theorem tile_confined_iff (reqPath : Text) :
    (FileRequest.tile reqPath).Confined prcdOpens ↔
      (FileRequest.tile reqPath).Plain prcdOpens := by
  have hinside (font : Text) :
      Inside mapDataOfflineFonts (cstr (mapDataOfflineFonts ++ font)) ↔
        Kept mapDataOfflineFonts (cstr font) :=
    isDirectory_mapDataOfflineFonts.inside_cstr_iff
  constructor
  · intro hconfined hfont
    by_cases hname : fontName reqPath = []
    · rw [hname]
      exact kept_of_levels rfl
    · obtain ⟨paths, hpaths, hin⟩ := hconfined fullFiles rfl
      obtain rfl := Option.some.inj hpaths
      rw [tileOpens_full hfont hname] at hin
      obtain ⟨dir, hdir, hpath⟩ := hin _ (List.mem_singleton_self _)
      obtain rfl := Option.some.inj hdir
      unfold tileDirectory at hpath
      rw [if_pos hfont.1] at hpath
      exact (hinside _).mp hpath
  · intro hplain fs _
    refine ⟨_, rfl, fun path hpath => ⟨tileDirectory reqPath, rfl, ?_⟩⟩
    by_cases hfont : AsksFont reqPath
    · unfold tileDirectory
      rw [if_pos hfont.1]
      rw [tileOpens_font hfont] at hpath
      split_ifs at hpath
      · cases hpath
      · cases hread : fontPath fs (fontName reqPath) with
        | none =>
          rw [hread] at hpath
          cases hpath
        | some font =>
          rw [hread] at hpath
          obtain rfl := List.mem_singleton.mp hpath
          exact (hinside _).mpr (kept_fontPath hread fun _ => hplain hfont)
    · exact inside_of_mem_tileOpens hfont hpath

end Confined

/-- Vehicle image `../x` is asked for. -/
def parentPacket : DownloadPacket where
  bytes := [0xff#8, 0xfe#8, 0xfd#8, 0xfc#8, 1#8, 0#8, 0#8, 0#8, 46#8, 46#8, 47#8, 120#8] ++
    List.replicate 116 0#8
  size := by rw [List.length_append, List.length_replicate]; rfl
  magic := rfl

end Requests

end UCLinux.Web
