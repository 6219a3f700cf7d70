import Mathlib.Data.List.Infix
import UCLinux.Ocpp.Text

/-!
Where the files are that a phone can ask for. The path of a file is the
directory of its type with the name behind it, put together in an array of 128
bytes that nothing compares with its length.
-/

namespace UCLinux.Phones

open Sql

def mediaVeh : Text := "/home/mkr/www/media/v_img/"

def mediaDirectory : Text := "/home/mkr/www/media"

def udorxMapDataDownloadRoot : Text := "/home/mkr/service/map_data_download/"

def udorxFirmwareDataDownloadRoot : Text := "/home/mkr/service/firmware_download"

inductive DownloadFileTypeEnum where
  | mediaFileNone
  | mediaFileVehicleImage
  | mediaFileInspectionImage
  | mediaFileMobileworkerImage
  | mediaFileMsgImage
  | mediaFileMsgAudio
  | mediaFileMsgVideo
  | bigMediaFileDownload
  | bigMapTileFileDownload
  | bigRouteTileFileDownload
  | bigGeocoderFileDownload
  | ptripDownload
  | bigMediaFileDownloadFwCpu
  | bigMediaFileDownloadFwFraphics
  | bigMediaFileDownloadFwEsp32
  deriving DecidableEq, Repr

/-- The types and their numbers. -/
def DownloadFileTypeEnum.numbers : List (Nat × DownloadFileTypeEnum) :=
  [(0, .mediaFileNone), (1, .mediaFileVehicleImage), (2, .mediaFileInspectionImage),
    (3, .mediaFileMobileworkerImage), (4, .mediaFileMsgImage), (5, .mediaFileMsgAudio),
    (6, .mediaFileMsgVideo), (100, .bigMediaFileDownload), (101, .bigMapTileFileDownload),
    (102, .bigRouteTileFileDownload), (103, .bigGeocoderFileDownload), (104, .ptripDownload),
    (105, .bigMediaFileDownloadFwCpu), (106, .bigMediaFileDownloadFwFraphics),
    (107, .bigMediaFileDownloadFwEsp32)]

def DownloadFileTypeEnum.ofNumber (n : Nat) : Option DownloadFileTypeEnum := numbers.lookup n

/-- What the path of a file begins with. Types without a case have no path, and a
media file goes by the first of three extensions that its name holds anywhere. -/
def DownloadFileTypeEnum.directory (filename : Text) : DownloadFileTypeEnum → Option Text
  | .mediaFileVehicleImage => some mediaVeh
  | .bigMapTileFileDownload => some (udorxMapDataDownloadRoot ++ "/tiles/")
  | .bigRouteTileFileDownload => some (udorxMapDataDownloadRoot ++ "/routing/")
  | .bigGeocoderFileDownload => some (udorxMapDataDownloadRoot ++ "/geocoder/")
  | .bigMediaFileDownload =>
    if (".jpg" : Text) <:+: filename then some (mediaDirectory ++ "/pictures/")
    else if (".m4a" : Text) <:+: filename then some (mediaDirectory ++ "/audio/")
    else if (".mp4" : Text) <:+: filename then some (mediaDirectory ++ "/video/")
    else none
  | .bigMediaFileDownloadFwCpu | .bigMediaFileDownloadFwFraphics | .bigMediaFileDownloadFwEsp32 =>
    some (udorxFirmwareDataDownloadRoot ++ "/firmware/")
  | .mediaFileNone | .mediaFileInspectionImage | .mediaFileMobileworkerImage
  | .mediaFileMsgImage | .mediaFileMsgAudio | .mediaFileMsgVideo | .ptripDownload => none

/-- The directory of a type that comes as a number. -/
def fileDirectory (fileType : Nat) (filename : Text) : Option Text :=
  (DownloadFileTypeEnum.ofNumber fileType).bind (·.directory filename)

/-- The characters that `sprintf` writes, without the NUL behind them. -/
def mediaPath (fileType : Nat) (filename : Text) : Text :=
  (fileDirectory fileType filename).elim [] (· ++ filename)

/-- `char fpath[128]` -/
def fpathSize : Nat := 128

/-- The path and its NUL fit the array. -/
def PathFits (fileType : Nat) (filename : Text) : Prop :=
  (mediaPath fileType filename).length < fpathSize

instance (fileType : Nat) (filename : Text) : Decidable (PathFits fileType filename) :=
  inferInstanceAs (Decidable (_ < _))

/-- `mkr_createPathForMediaFile`; `none` when it writes past the array. -/
def createPathForMediaFile (fileType : Nat) (filename : Text) : Option Text :=
  if PathFits fileType filename then some (mediaPath fileType filename) else none

end UCLinux.Phones
