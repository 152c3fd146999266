/-!
# Byte strings

What is written to streams and files, a text in UTF-8. `patch` is a write in the middle of a file.
-/

namespace LineShell

abbrev Bytes := List UInt8

namespace Bytes

def ofText (s : String) : Bytes := s.toList.flatMap String.utf8EncodeChar

def ofLine (s : String) : Bytes := ofText (s ++ "\n")

/-- The content after `data` is written at `offset`; a gap before it is filled with zeros. -/
def patch (content : Bytes) (offset : Nat) (data : Bytes) : Bytes :=
  content.take offset ++ List.replicate (offset - content.length) 0 ++ data ++
    content.drop (offset + data.length)

@[simp] theorem ofText_empty : ofText "" = [] := by simp [ofText]

theorem patch_length (content data : Bytes) :
    patch content content.length data = content ++ data := by
  simp [patch]

/-- A write at the start covers as much of the content as it is long. -/
theorem patch_zero (content data : Bytes) :
    patch content 0 data = data ++ content.drop data.length := by
  simp [patch]

end Bytes

end LineShell
