import ReleaseStamp.Toml.Fault

/-!
# Reading a document

A document is read as a list of characters with their places. A byte order mark at the start is left
out, and a carriage return with a newline counts as a newline at the place of the first.
-/
namespace ReleaseStamp.Toml

structure Placed where
  offset : Nat
  char : Char
deriving DecidableEq, Repr, Inhabited

def placed (offset : Nat) : List Char → List Placed
  | [] => []
  | '\r' :: '\n' :: rest => ⟨offset, '\n'⟩ :: placed (offset + 2) rest
  | c :: rest => ⟨offset, c⟩ :: placed (offset + c.utf8Size) rest

def byteOrderMark : Char := Char.ofNat 0xFEFF

structure Cursor where
  rest : List Placed
  /-- The place behind the last character. -/
  stop : Nat
deriving DecidableEq, Repr

namespace Cursor

def ofDocument (document : String) : Cursor where
  rest := match document.toList with
    | c :: rest =>
      if c = byteOrderMark then placed c.utf8Size rest else placed 0 (c :: rest)
    | [] => []
  stop := document.utf8ByteSize

def offset (cursor : Cursor) : Nat := (cursor.rest.head?.map Placed.offset).getD cursor.stop

end Cursor

abbrev Reader := StateT Cursor (Except Fault)

namespace Reader

def fail {α : Type} (offset : Nat) (problem : Problem) : Reader α :=
  throw { problem, offset := some offset }

def offset : Reader Nat := return (← get).offset

end Reader

end ReleaseStamp.Toml
