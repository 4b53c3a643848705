import Highlighting.Host
import Highlighting.Rules
import Highlighting.Table
import Highlighting.Token

/-! The marks that an editor shows, kept beside it: what a call changes there is changed here if the
call is not refused. -/
namespace Highlighting

def GroupRule.mark? (r : GroupRule) (t : Token) : Option Mark :=
  (r.groupOf? t.scopes).map fun group => ⟨t.line, t.column, t.endColumn, group⟩

def insertMark (m : Mark) : List Mark → List Mark
  | [] => [m]
  | n :: rest => if n.line ≤ m.line then n :: insertMark m rest else m :: n :: rest

structure MarkStore where
  /-- The marks of each buffer by line and, on a line, in the order in which they were added. -/
  buffers : Table Nat (List Mark) := {}
  deriving Repr, Inhabited

namespace MarkStore

def marks (s : MarkStore) (buffer : Nat) : List Mark := (s.buffers.get? buffer).getD []

def count (s : MarkStore) (buffer : Nat) : Nat := (s.marks buffer).length

def forget (s : MarkStore) (buffer : Nat) : MarkStore := ⟨s.buffers.erase buffer⟩

/-- What a call that is not refused changes. -/
def apply (s : MarkStore) : HostCall → MarkStore
  | .addMarks buffer marks =>
    ⟨s.buffers.put buffer (marks.foldl (fun all m => insertMark m all) (s.marks buffer))⟩
  | .removeMarks buffer range =>
    ⟨s.buffers.put buffer ((s.marks buffer).filter fun m => !range.contains m.line)⟩
  | .disable | .openScratch .. => s

def call (s : MarkStore) (h : Host) (c : HostCall) : Except String MarkStore × Host :=
  match h.make c with
  | (none, h) => (.ok (s.apply c), h)
  | (some reason, h) => (.error reason, h)

def set (s : MarkStore) (h : Host) (buffer : Nat) (rule : GroupRule) (tokens : List Token) :
    Except String (Nat × MarkStore) × Host :=
  match tokens.filterMap rule.mark? with
  | [] => (.ok (0, s), h)
  | first :: rest =>
    let (result, h) := s.call h (.addMarks buffer (first :: rest))
    (result.map ((first :: rest).length, ·), h)

def undecorate (s : MarkStore) (h : Host) (buffer : Nat) (range : LineRange) :
    Except String MarkStore × Host :=
  s.call h (.removeMarks buffer range)

end MarkStore

end Highlighting
