import UCLinux.Fleet.WebSessions
import UCLinux.Web.Confinement

/-!
The GET and other requests of a browser that are not posts of a page. Two pages
are for browsers with a session; they are recognised by their names in the
path, and a session by an ID in the query. What is left opens the file that the
path names below the root.
-/

namespace UCLinux.Web

open Sql
open Machine (Inside resolve pathSteps pathSteps_append walk_append starts_walk_iff resolve_last
  mem_splitOn_of_mem_resolve infix_of_mem_splitOn)
open Fleet (WebSession getWebSessionByID str2Int64)
open Phones (FileSystem)
open Sip (containSubstr containSubstr_of_infix)

section Program

inductive HtpMethod where
  | GET | HEAD | POST | PUT | DELETE | MKCOL | COPY | MOVE | OPTIONS | PROPFIND | PROPPATCH
  | LOCK | UNLOCK | TRACE | CONNECT | PATCH | UNKNOWN
  deriving DecidableEq, Repr

/-- `uri->path`: the parser starts a path at a slash and ends it before the
first question mark. -/
structure UriPath where
  full : Text
  rooted : full.head? = some '/'
  unasked : '?' ∉ full
  noNul : '\x00' ∉ full

/-- A request; without a query there is no list of its keys. -/
structure HttpRequest where
  method : HtpMethod
  path : UriPath
  query : Option (List (Text × Text))

def mkrRootDir : Text := "/home/mkr/www"

def defaultPage : Text := "index.html"

/-- The pages with a session. -/
def mkrPages : List Text := ["mkr.html", "adm.html"]

/-- `evhtp_kv_find`, which compares keys without their case. -/
def evhtpKvFind (kvs : List (Text × Text)) (key : Text) : Option Text :=
  (kvs.find? fun kv => kv.1.map Char.toLower = key.map Char.toLower).map Prod.snd

/-- Who answers a request: a handler of posts, the tile server, a page with the
session's ID in the place of `#m_si#`, the page without a session, or the file
that is opened, which is not found when that fails. -/
inductive AppReply where
  | webRequest
  | pWebRequest
  | tile (source : TileSource)
  | page (path sessionid : Text)
  | logout
  | file (path : Text)
  deriving DecidableEq, Repr

variable (fs : FileSystem) (sessions : List WebSession) (req : HttpRequest)

/-- `_process_mkr_request`; `none` returns false. -/
def processMkrPage (fname : Text) : Option AppReply :=
  if req.method = .GET then
    match req.query.bind fun params => evhtpKvFind params "si" with
    | some sessionid =>
      match getWebSessionByID sessions (str2Int64 sessionid) with
      | some pWs =>
        let ll := if pWs.lang = "1" then "es_" ++ fname else fname
        some (.page (mkrRootDir ++ "/" ++ ll) sessionid)
      | none => some .logout
    | none => some .logout
  else none

def processMkrRequest : Option AppReply :=
  if containSubstr req.path.full "mkr.html" then processMkrPage sessions req "mkr.html"
  else if containSubstr req.path.full "adm.html" then processMkrPage sessions req "adm.html"
  else none

/-- The path behind the root. -/
def UriPath.static (path : UriPath) : Text :=
  if path.full = "/" then path.full ++ defaultPage else path.full

def processMainApplicationRequest : AppReply :=
  let ext := getExtFromFileName req.path.full
  if ext = "ajx" ∨ (ext = "pdf" ∧ ¬containSubstr req.path.full "uc_docs") then .webRequest
  else if ext = "req" then .pWebRequest
  else match tileServerProcessRequest fs req.path.full ext with
    | some source => .tile source
    | none => (processMkrRequest sessions req).getD (.file (mkrRootDir ++ req.path.static))

end Program

section Guarded

/-- The path of the file a reply has the content of. -/
def AppReply.path : AppReply → Option Text
  | .page path _ | .tile (.file path) | .file path => some path
  | .webRequest | .pWebRequest | .tile .tiles | .tile .satellite | .logout => none

/-- Where the pages with a session lie. -/
def Protected (path : Text) : Prop :=
  ∃ fname ∈ mkrPages, resolve path = resolve (mkrRootDir ++ '/' :: fname)

instance (path : Text) : Decidable (Protected path) := List.decidableBEx _ _

/-- The query has the ID of a session. -/
def HttpRequest.Live (sessions : List WebSession) (req : HttpRequest) : Prop :=
  ∃ params ∈ req.query, ∃ sessionid ∈ evhtpKvFind params "si",
    ∃ ws ∈ sessions, ws.sessionid = str2Int64 sessionid

/-- The protected pages are sent to a session only, and no other file that is
opened lies outside the root. -/
structure Guarded (fs : FileSystem) (sessions : List WebSession) (req : HttpRequest) : Prop where
  page : ∀ path ∈ (processMainApplicationRequest fs sessions req).path, (fs path).isSome →
    Protected path → req.Live sessions
  file : ∀ path, processMainApplicationRequest fs sessions req = .file path → (fs path).isSome →
    Inside mkrRootDir path

/-- The request is left to the files. -/
structure HttpRequest.Static (fs : FileSystem) (req : HttpRequest) : Prop where
  notAjx : getExtFromFileName req.path.full ≠ "ajx"
  document : getExtFromFileName req.path.full = "pdf" → containSubstr req.path.full "uc_docs"
  notReq : getExtFromFileName req.path.full ≠ "req"
  untiled : tileServerProcessRequest fs req.path.full (getExtFromFileName req.path.full) = none
  unnamed : req.method = .GET → ∀ fname ∈ mkrPages, ¬containSubstr req.path.full fname

variable {fs : FileSystem} {sessions : List WebSession} {req : HttpRequest} {path : Text}

theorem UriPath.exists_static (path : UriPath) : ∃ name, path.static = '/' :: name := by
  obtain ⟨name, hname⟩ := List.head?_eq_some_iff.mp path.rooted
  unfold UriPath.static
  rw [hname]
  split_ifs
  · exact ⟨name ++ defaultPage, rfl⟩
  · exact ⟨name, rfl⟩

/-- The pages are sent to a session, or the browser is logged out. -/
theorem processMkrPage_some {fname : Text} {reply : AppReply}
    (h : processMkrPage sessions req fname = some reply) :
    reply = .logout ∨ req.Live sessions ∧ ∃ path sessionid, reply = .page path sessionid := by
  unfold processMkrPage at h
  split_ifs at h
  split at h
  · next sessionid hsi =>
    obtain ⟨params, hparams, hfind⟩ := Option.bind_eq_some_iff.mp hsi
    split at h
    · next pWs hws =>
      unfold getWebSessionByID at hws
      have hid : pWs.sessionid = str2Int64 sessionid := by simpa using List.find?_some hws
      refine Or.inr ⟨⟨params, hparams, sessionid, hfind, pWs, ?_⟩, _, _, (Option.some.inj h).symm⟩
      exact ⟨List.mem_of_find?_eq_some hws, hid⟩
    · exact Or.inl (Option.some.inj h).symm
  · exact Or.inl (Option.some.inj h).symm

theorem processMkrPage_none_iff {fname : Text} :
    processMkrPage sessions req fname = none ↔ req.method ≠ .GET := by
  unfold processMkrPage
  constructor
  · intro h hget
    rw [if_pos hget] at h
    split at h
    · split at h <;> cases h
    · cases h
  · intro hmethod
    rw [if_neg hmethod]

theorem processMkrRequest_some {reply : AppReply}
    (h : processMkrRequest sessions req = some reply) :
    reply = .logout ∨ req.Live sessions ∧ ∃ path sessionid, reply = .page path sessionid := by
  unfold processMkrRequest at h
  split_ifs at h
  · exact processMkrPage_some h
  · exact processMkrPage_some h

theorem processMkrRequest_none_iff : processMkrRequest sessions req = none ↔
    (req.method = .GET → ∀ fname ∈ mkrPages, ¬containSubstr req.path.full fname) := by
  unfold processMkrRequest
  simp only [mkrPages, List.mem_cons, List.not_mem_nil, or_false, forall_eq_or_imp, forall_eq]
  split_ifs with hmkr hadm
  · rw [processMkrPage_none_iff]
    exact ⟨fun hmethod hget => absurd hget hmethod, fun h hget => (h hget).1 hmkr⟩
  · rw [processMkrPage_none_iff]
    exact ⟨fun hmethod hget => absurd hget hmethod, fun h hget => (h hget).2 hadm⟩
  · exact ⟨fun _ _ => ⟨hmkr, hadm⟩, fun _ => rfl⟩

/-- A request that is left to the files opens the file of its path. -/
theorem HttpRequest.Static.reply (h : req.Static fs) :
    processMainApplicationRequest fs sessions req = .file (mkrRootDir ++ req.path.static) := by
  have hweb : ¬(getExtFromFileName req.path.full = "ajx" ∨
      (getExtFromFileName req.path.full = "pdf" ∧ ¬containSubstr req.path.full "uc_docs")) := by
    rintro (hajx | ⟨hpdf, hdocs⟩)
    · exact h.notAjx hajx
    · exact hdocs (h.document hpdf)
  unfold processMainApplicationRequest
  dsimp only
  rw [if_neg hweb, if_neg h.notReq, h.untiled, processMkrRequest_none_iff.mpr h.unnamed]
  rfl

variable (fs sessions req) in
/-- The replies with a file, and what each of them takes. -/
theorem processMainApplicationRequest_cases :
    (processMainApplicationRequest fs sessions req).path = none ∨
      (∃ source, tileServerProcessRequest fs req.path.full (getExtFromFileName req.path.full) =
        some source ∧ processMainApplicationRequest fs sessions req = .tile source) ∨
      (req.Live sessions ∧
        ∃ path sessionid, processMainApplicationRequest fs sessions req = .page path sessionid) ∨
      req.Static fs := by
  unfold processMainApplicationRequest
  dsimp only
  split_ifs with hweb hreq
  · exact Or.inl rfl
  · exact Or.inl rfl
  · cases htile : tileServerProcessRequest fs req.path.full (getExtFromFileName req.path.full) with
    | some source => exact Or.inr (Or.inl ⟨source, rfl, rfl⟩)
    | none =>
      cases hmkr : processMkrRequest sessions req with
      | some reply =>
        rcases processMkrRequest_some hmkr with rfl | hpage
        · exact Or.inl rfl
        · exact Or.inr (Or.inr (Or.inl hpage))
      | none =>
        obtain ⟨hajx, hpdf⟩ := not_or.mp hweb
        refine Or.inr (Or.inr (Or.inr ⟨hajx, fun hext => ?_, hreq, htile, ?_⟩))
        · by_contra hdocs
          exact hpdf ⟨hext, hdocs⟩
        · exact processMkrRequest_none_iff.mp hmkr

theorem mkrPages_plain {fname : Text} (h : fname ∈ mkrPages) :
    resolve (mkrRootDir ++ '/' :: fname) = resolve mkrRootDir ++ [fname] ∧
      fname ∉ mkrRootDir.splitOn '/' ∧ fname.getLast? = some 'l' := by
  revert fname
  decide +kernel

/-- The name of a protected page is an entry of a path that leads to it. -/
theorem Protected.containSubstr {full : Text} (h : Protected (mkrRootDir ++ full))
    (hrooted : ∃ name, full = '/' :: name) : ∃ fname ∈ mkrPages, containSubstr full fname := by
  obtain ⟨fname, hfname, hresolve⟩ := h
  obtain ⟨name, rfl⟩ := hrooted
  obtain ⟨hpage, hroot, _⟩ := mkrPages_plain hfname
  have hentry : fname ∈ resolve (mkrRootDir ++ '/' :: name) := by
    rw [hresolve, hpage]
    exact List.mem_append_right _ (List.mem_singleton_self _)
  refine ⟨fname, hfname, containSubstr_of_infix ?_⟩
  have hmem := mem_splitOn_of_mem_resolve hentry
  rw [List.splitOn_append_cons_self] at hmem
  rcases List.mem_append.mp hmem with hin | hname
  · exact absurd hin hroot
  · exact (infix_of_mem_splitOn hname).trans (List.suffix_cons '/' name).isInfix

/-- A GET that is left to the files does not reach a protected page. -/
theorem HttpRequest.Static.not_protected (h : req.Static fs) (hget : req.method = .GET) :
    ¬Protected (mkrRootDir ++ req.path.static) := by
  intro hprotected
  obtain ⟨fname, hfname, hsub⟩ := hprotected.containSubstr req.path.exists_static
  unfold UriPath.static at hsub
  split_ifs at hsub with hslash
  · rw [hslash] at hsub
    revert hsub
    revert fname
    decide +kernel
  · exact h.unnamed hget fname hfname hsub

/-- Taking from the end up to a character keeps the end. -/
theorem getLast?_takeWhile_reverse {q : Char → Bool} {c : Char} (h : path.getLast? = some c)
    (hq : q c) : (path.reverse.takeWhile q).reverse.getLast? = some c := by
  rw [List.getLast?_reverse, List.head?_takeWhile, List.head?_reverse, h]
  exact Option.filter_some_pos hq

/-- The extension of a font ends its path. -/
theorem getLast?_of_pbf (h : getExtFromFileName path = "pbf") : path.getLast? = some 'f' := by
  unfold getExtFromFileName at h
  split_ifs at h
  · have hhead : (path.reverse.takeWhile (· ≠ '.')).head? = some 'f' := by
      rw [← List.getLast?_reverse, h]
      rfl
    rw [List.head?_takeWhile, List.head?_reverse] at hhead
    exact (Option.filter_eq_some_iff.mp hhead).1
  · cases h

/-- The name of a font ends as the path does. -/
theorem getLast?_fontName {c : Char} (hlast : path.getLast? = some c) (hasked : '?' ∉ path)
    (hne : fontName path ≠ []) : (fontName path).getLast? = some c := by
  have hnone : Sip.find ("?" : Text) path = none := Sip.find_char_none hasked
  unfold fontName extractSubStr at hne ⊢
  rw [hnone] at hne ⊢
  cases hfind : Sip.find ("fonts/mikerel/" : Text) path with
  | none =>
    rw [hfind] at hne
    exact absurd rfl hne
  | some i =>
    rw [hfind] at hne
    have hlong : ¬path.length ≤ i + ("fonts/mikerel/" : Text).length :=
      fun hle => hne (List.drop_eq_nil_of_le hle)
    rw [← hlast]
    exact List.getLast?_drop.trans (if_neg hlong)

/-- So does the font that is read for it. -/
theorem getLast?_fontPath {font : Text} {c : Char} (hfont : fontPath fs path = some font)
    (hlast : path.getLast? = some c) (hslash : c ≠ '/') : font.getLast? = some c := by
  unfold fontPath at hfont
  split_ifs at hfont
  · exact Option.some.inj hfont ▸ hlast
  · obtain ⟨⟨dir, filename⟩, hsplit, hlisted⟩ := Option.bind_eq_some_iff.mp hfont
    obtain ⟨s, _, rfl⟩ := Option.map_eq_some_iff.mp hlisted
    unfold splitFilename2Dir at hsplit
    split_ifs at hsplit
    obtain ⟨_, rfl⟩ := Prod.mk.inj (Option.some.inj hsplit)
    have hname : (path.reverse.takeWhile (· ≠ '/')).reverse.getLast? = some c :=
      getLast?_takeWhile_reverse hlast (decide_eq_true hslash)
    rw [List.getLast?_append_cons, List.getLast?_cons, hname]
    rfl

/-- A path to a protected page ends in its last letter, if it ends in a letter. -/
theorem Protected.last {c : Char} (h : Protected path) (hlast : path.getLast? = some c)
    (hslash : c ≠ '/') (hdot : c ≠ '.') : c = 'l' := by
  obtain ⟨fname, hfname, hresolve⟩ := h
  obtain ⟨hpage, _, hend⟩ := mkrPages_plain hfname
  obtain ⟨d, e, hpath, he⟩ := resolve_last hlast hslash hdot
  rw [hresolve, hpage] at hpath
  have hfinal : [fname] = [e] := List.append_inj_right' hpath rfl
  obtain rfl := List.singleton_inj.mp hfinal
  exact Option.some.inj (he.symm.trans hend)

/-- The tile server has no protected page among its files. -/
theorem tile_not_protected {full : Text} (hasked : '?' ∉ full)
    (h : tileServerProcessRequest fs full (getExtFromFileName full) = some (.file path)) :
    ¬Protected path := by
  unfold tileServerProcessRequest at h
  split_ifs at h with hpbf htiles hfonts hsat hjson hpng
  · cases h
  · dsimp only at h
    split_ifs at h with hname
    obtain ⟨font, hfont, hpath⟩ := Option.map_eq_some_iff.mp h
    cases hpath
    have hlast := getLast?_fontPath hfont
      (getLast?_fontName (getLast?_of_pbf hpbf) hasked hname) (by decide)
    intro hprotected
    have hl := hprotected.last (c := 'f') (by rw [List.getLast?_append, hlast]; rfl)
      (by decide) (by decide)
    cases hl
  · cases h
  · cases h
    decide +kernel
  · cases h
    decide +kernel

/-- A file leads below the root when its path does not leave the root, or enters it
again. -/
theorem UriPath.inside_iff (full : UriPath) :
    Inside mkrRootDir (mkrRootDir ++ full.static) ↔ Kept mkrRootDir full.static := by
  obtain ⟨name, hname⟩ := full.exists_static
  have hsteps : pathSteps full.static = pathSteps name := by
    rw [hname]
    exact pathSteps_append (d := [])
  unfold Kept Inside
  rw [← starts_walk_iff, hsteps, hname]
  unfold resolve
  rw [pathSteps_append, walk_append]

/-- A request is guarded exactly when the file it is left to does not lead out of
the root and is no protected page, unless a session asks for it. -/
theorem guarded_iff (fs : FileSystem) (sessions : List WebSession) (req : HttpRequest) :
    Guarded fs sessions req ↔
      (req.Static fs → (fs (mkrRootDir ++ req.path.static)).isSome →
        Kept mkrRootDir req.path.static ∧
          (req.method ≠ .GET → Protected (mkrRootDir ++ req.path.static) →
            req.Live sessions)) := by
  constructor
  · intro hguarded hstatic hthere
    refine ⟨req.path.inside_iff.mp (hguarded.file _ hstatic.reply hthere), fun _ => ?_⟩
    exact hguarded.page _ (by rw [hstatic.reply]; rfl) hthere
  · intro h
    rcases processMainApplicationRequest_cases fs sessions req with
      hnone | ⟨source, htile, hreply⟩ | ⟨hlive, page, sessionid, hreply⟩ | hstatic
    · refine ⟨fun path hpath => ?_, fun path hreply => ?_⟩
      · rw [hnone] at hpath
        cases hpath
      · rw [hreply] at hnone
        cases hnone
    · refine ⟨fun path hpath _ hprotected => ?_, fun path hfile => ?_⟩
      · rw [hreply] at hpath
        cases source with
        | tiles | satellite => cases hpath
        | file font =>
          obtain rfl := Option.some.inj hpath
          exact absurd hprotected (tile_not_protected req.path.unasked htile)
      · rw [hreply] at hfile
        cases hfile
    · refine ⟨fun _ _ _ _ => hlive, fun path hfile => ?_⟩
      rw [hreply] at hfile
      cases hfile
    · refine ⟨fun path hpath hthere hprotected => ?_, fun path hfile hthere => ?_⟩
      · rw [hstatic.reply] at hpath
        obtain rfl := Option.some.inj hpath
        refine (h hstatic hthere).2 (fun hget => ?_) hprotected
        exact hstatic.not_protected hget hprotected
      · rw [hstatic.reply] at hfile
        cases hfile
        exact req.path.inside_iff.mpr (h hstatic hthere).1

/-- A POST of the page without a session. -/
def postedPage : HttpRequest where
  method := .POST
  path := ⟨"/mkr.html", rfl, by decide, by decide⟩
  query := none

/-- A GET of a file beside the root. -/
def parentFile : HttpRequest where
  method := .GET
  path := ⟨"/../x", rfl, by decide, by decide⟩
  query := none

/-- The page is sent to everyone who posts, and a step up leads out of the root. -/
theorem guarded_escapes :
    ¬Guarded fullFiles [] postedPage ∧ ¬Guarded fullFiles [] parentFile := by
  have hposted : processMainApplicationRequest fullFiles [] postedPage =
      .file "/home/mkr/www/mkr.html" := by decide +kernel
  have hparent : processMainApplicationRequest fullFiles [] parentFile =
      .file "/home/mkr/www/../x" := by decide +kernel
  constructor
  · intro h
    obtain ⟨_, hquery, _⟩ := h.page "/home/mkr/www/mkr.html" (by rw [hposted]; rfl) rfl
      (by decide +kernel)
    cases hquery
  · intro h
    exact absurd (h.file _ hparent rfl) (by decide +kernel)

end Guarded

end UCLinux.Web
