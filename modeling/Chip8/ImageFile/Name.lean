import Chip8.Text.Quoted

/-!
# Names of image files

The extension of its name says in which format an image is saved.
-/

namespace Chip8.ImageFile

def baseName (path : List Char) : List Char :=
  (path.reverse.takeWhile (· ≠ '/')).reverse

/-- The extension of a path, from its last point on.  Points at the start of a
name do not start an extension. -/
def extension (path : String) : String :=
  let name := (baseName path.toList).dropWhile (· = '.')
  if name.contains '.' then
    .ofList ('.' :: (name.reverse.takeWhile (· ≠ '.')).reverse)
  else ""

/-- The extensions of the formats in which colour images can be saved. -/
def knownExtensions : List String :=
  [".png", ".apng", ".jpg", ".jpeg", ".jpe", ".jfif", ".gif", ".bmp", ".dib", ".tif", ".tiff",
    ".webp", ".ppm", ".pbm", ".pgm", ".pnm", ".pfm", ".pdf", ".ps", ".eps", ".ico", ".icns",
    ".im", ".pcx", ".tga", ".icb", ".vda", ".vst", ".sgi", ".rgb", ".rgba", ".bw", ".dds",
    ".jp2", ".j2k", ".jpc", ".jpf", ".jpx", ".j2c", ".mpo", ".avif", ".avifs", ".qoi"]

/-- The extension in lower case, if it belongs to no format. -/
def unknownExtension? (path : String) : Option String :=
  let lower := (extension path).toLower
  if knownExtensions.contains lower then none else some lower

/-- The report about an extension that belongs to no format. -/
def unknownMessage (extension : String) : String := "unknown file extension: " ++ extension

end Chip8.ImageFile
