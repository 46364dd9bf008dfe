/-!
# Media types

The types of file that a post can hold. Each belongs to a family and has a MIME type, which is the
name of the family, a slash and a subtype.
-/

namespace Tagboard

/-- The families of media types. -/
inductive MediaFamily where
  | audio
  | image
  | video
deriving DecidableEq, Repr

/-- The name of a family. -/
def MediaFamily.name : MediaFamily → String
  | .audio => "audio"
  | .image => "image"
  | .video => "video"

/-- The types of file that a post can hold. -/
inductive MediaType where
  | avif
  | bmp
  | gif
  | jpeg
  | png
  | webp
  | tiff
  | mp3
  | wav
  | wav2
  | wav3
  | mp4
  | mpeg
  | webm
deriving DecidableEq, Repr

/-- What is recorded about a media type. -/
structure MediaTypeInfo where
  name : String
  description : String
  extensions : List String
  family : MediaFamily
  subtype : String

namespace MediaType

/-- Every media type, in the order in which they are listed. -/
def all : List MediaType :=
  [avif, bmp, gif, jpeg, png, webp, tiff, mp3, wav, wav2, wav3, mp4, mpeg, webm]

/-- What is recorded about each media type. -/
def info : MediaType → MediaTypeInfo
  | avif => ⟨"AVIF", "AVIF image", ["avif"], .image, "avif"⟩
  | bmp => ⟨"BMP", "Windows Bitmap Graphics", ["bmp"], .image, "bmp"⟩
  | gif => ⟨"GIF", "GIF", ["gif"], .image, "gif"⟩
  | jpeg => ⟨"JPEG", "JPEG image", ["jpg", "jpeg"], .image, "jpeg"⟩
  | png => ⟨"PNG", "PNG", ["png"], .image, "png"⟩
  | webp => ⟨"WEBP", "WEBP image", ["webp"], .image, "webp"⟩
  | tiff => ⟨"TIFF", "TIFF image", ["tif", "tiff"], .image, "tiff"⟩
  | mp3 => ⟨"MP3", "MP3 audio", ["mp3", "mpeg"], .audio, "mpeg"⟩
  | wav => ⟨"WAV", "WAV audio", ["wav"], .audio, "vnd.wav"⟩
  | wav2 => ⟨"WAV2", "WAV audio", ["wav"], .audio, "vnd.wave"⟩
  | wav3 => ⟨"WAV3", "WAV audio", ["wav"], .audio, "wave"⟩
  | mp4 => ⟨"MP4", "MP4 video", ["mp4"], .video, "mp4"⟩
  | mpeg => ⟨"MPEG", "MPEG video", ["mpeg"], .video, "mpeg"⟩
  | webm => ⟨"WEBM", "WEBM video", ["webm"], .video, "webm"⟩

/-- The name of a media type. -/
def name (m : MediaType) : String := m.info.name

/-- The MIME type of a media type. -/
def mimetype (m : MediaType) : String := m.info.family.name ++ "/" ++ m.info.subtype

/-- Whether files of this type are images. -/
def isImage (m : MediaType) : Bool := m.info.family = .image

/-- The media type with a MIME type. -/
def ofMimetype? (mimetype : String) : Option MediaType := all.find? (·.mimetype == mimetype)

/-- The MIME types of all media types, in a list for messages. -/
def supportedMimetypes : String := ", ".intercalate (all.map mimetype)

/-- No two media types share a MIME type. -/
theorem mimetype_nodup : (all.map mimetype).Nodup := by decide +kernel

/-- A MIME type finds the media type whose MIME type it is, and no other. -/
theorem ofMimetype?_eq_some_iff {mimetype : String} {type : MediaType} :
    ofMimetype? mimetype = some type ↔ type.mimetype = mimetype := by
  constructor
  · intro found
    unfold ofMimetype? at found
    have same := List.find?_some found
    exact eq_of_beq same
  · rintro rfl
    cases type <;> decide +kernel

end MediaType

end Tagboard
