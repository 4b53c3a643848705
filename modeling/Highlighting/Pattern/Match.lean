import Highlighting.Matcher
import Highlighting.Pattern.Compile
import Highlighting.Text.Utf8

/-!
Matching by backtracking. Cursors never leave the text and, but for the body of a look-behind, never
move back; that is what ends loops.
-/
namespace Highlighting.Pattern

open Unicode

structure Took (n : Nat) where
  start : Nat
  stop : Nat
  start_le : start ≤ stop
  stop_le : stop ≤ n

/-- A place in a text of `n` characters, with what the groups took on the way there. Nothing is
taken beyond `limit`, the end of the text or of what a look-behind looks at. -/
structure Cursor (n : Nat) where
  pos : Nat
  limit : Nat
  pos_le : pos ≤ limit
  limit_le : limit ≤ n
  took : Array (Option (Took n))
  /-- Where the match is taken to start, if not where it was tried. -/
  keep : Option Nat

namespace Cursor

variable {n : Nat}

theorem pos_le_size (c : Cursor n) : c.pos ≤ n := Nat.le_trans c.pos_le c.limit_le

def fresh (groups pos : Nat) (h : pos ≤ n) : Cursor n :=
  ⟨pos, n, h, Nat.le_refl n, .replicate groups none, none⟩

def took? (c : Cursor n) (group : Nat) : Option (Took n) := (c.took[group]?).join

/-- Begins a group. Until it ends it has taken nothing. -/
def enter (c : Cursor n) (group : Nat) : Cursor n :=
  if (c.took? group).isNone then c else { c with took := c.took.setIfInBounds group none }

def leave (c : Cursor n) (group start : Nat) (h : start ≤ c.pos) : Cursor n :=
  { c with took := c.took.setIfInBounds group (some ⟨start, c.pos, h, c.pos_le_size⟩) }

def moveTo (c : Cursor n) (pos : Nat) (h : pos ≤ c.limit) : Cursor n :=
  { c with pos := pos, pos_le := h }

def returnTo (c d : Cursor n) : Cursor n :=
  { c with pos := d.pos, limit := d.limit, pos_le := d.pos_le, limit_le := d.limit_le }

def back (c : Cursor n) (distance : Nat) : Cursor n :=
  c.moveTo (c.pos - distance) (Nat.le_trans (Nat.sub_le ..) c.pos_le)

/-- The cursor further back, its old place now its limit. -/
def backWithin (c : Cursor n) (distance : Nat) : Cursor n :=
  { c with
    pos := c.pos - distance
    limit := c.pos
    pos_le := Nat.sub_le ..
    limit_le := c.pos_le_size }

def sameTook (c d : Cursor n) (group : Nat) : Bool :=
  match c.took? group, d.took? group with
  | none, none => true
  | some a, some b => a.start == b.start && a.stop == b.stop
  | _, _ => false

theorem enter_pos (c : Cursor n) (group : Nat) : (c.enter group).pos = c.pos := by
  unfold enter
  split <;> rfl

end Cursor

/-- Whether a test that takes nothing holds at a position; `origin` is where the search began. At
the start of a text whose limit is there too, no word begins. -/
def Edge.holds (e : Edge) (text : Text) (origin limit pos : Nat) : Bool :=
  let before := if pos = 0 then none else text[pos - 1]?
  let after := if pos = 0 ∧ limit = 0 then none else text[pos]?
  let word := fun c : Option Char => c.any isWordChar
  match e with
  | .lineStart => pos = 0 || (before == some '\n' && pos ≠ text.size)
  | .lineEnd => pos = text.size || text[pos]? == some '\n'
  | .textStart => pos = 0
  | .textEnd => pos = text.size
  | .lastLineEnd => pos = text.size || (pos + 1 = text.size && text[pos]? == some '\n')
  | .wordEdge => word before ≠ word after
  | .notWordEdge => word before == word after
  | .searchStart => pos = origin

/-- Where the characters of a set that start at `pos` stop, at most `limit` further on. -/
def endOfRun (codes : RangeSet) (text : Text) (pos : Nat) : (limit : Nat) → Nat
  | 0 => pos
  | limit + 1 =>
    match text[pos]? with
    | some c => if codes.containsChar c then endOfRun codes text (pos + 1) limit else pos
    | none => pos

def tryDown {α : Type} (use : Nat → Option α) (least : Nat) : (extra : Nat) → Option α
  | 0 => use least
  | extra + 1 => use (least + extra + 1) <|> tryDown use least extra

def tryUp {α : Type} (use : Nat → Option α) (least : Nat) : (extra : Nat) → Option α
  | 0 => use least
  | extra + 1 => use least <|> tryUp use (least + 1) extra

def hasCodes (text : Text) (pos : Nat) : List Nat → Bool
  | [] => true
  | code :: rest => text[pos]?.any (·.toNat == code) && hasCodes text (pos + 1) rest

def lineEndAt? (text : Text) (pos limit : Nat) : Option Nat :=
  match text[pos]? with
  | none => none
  | some c =>
    if c = '\r' ∧ pos + 1 < limit ∧ text[pos + 1]? = some '\n' then some 2
    else
      let code := c.toNat
      if (10 ≤ code ∧ code ≤ 13) ∨ code = 0x85 ∨ code = 0x2028 ∨ code = 0x2029 then some 1 else none

def hasBytes (text : Text) (pos size : Nat) : (count : Nat) → Bool
  | 0 => size = 0
  | count + 1 =>
    size = 0 || text[pos]?.any fun c => hasBytes text (pos + 1) (size - c.utf8Size) count

/-- The code that the first `room` bytes of a character seem to stand for. -/
def codeWithin (room : Nat) (c : Char) : Nat :=
  match (String.utf8EncodeChar c).map UInt8.toNat with
  | [] => 0
  | first :: trail =>
    let more := trail.take (room - 1)
    if more.isEmpty then first
    else more.foldl (fun code byte => code * 64 + byte % 64) (first % Nat.pow 2 (6 - more.length))

/-- What a character folds to of which `room` bytes are looked at: what they seem to stand for, if
that has another case, and else the character itself. -/
def foldWithin (room : Nat) (c : Char) : List Nat :=
  let code := codeWithin room c
  let folded := foldCode code
  if folded = [code] then [c.toNat] else folded

/-- Whether the characters of `text` at `a` and at `b` agree for `count` characters. Without regard
to case, `room` bytes are looked at from `b` on. -/
def agree (foldCase : Bool) (text : Text) (a b : Nat) : (room count : Nat) → Bool
  | _, 0 => true
  | room, count + 1 =>
    match text[a]?, text[b]? with
    | some x, some y =>
      (if foldCase then foldCode x.toNat == foldWithin room y else x == y) &&
        agree foldCase text (a + 1) (b + 1) (room - y.utf8Size) count
    | _, _ => false

/-- How many characters a reference back takes at the cursor: as many as the first of the groups
that took a text found here again. There must be room for the text of every group before. -/
def referred (text : Text) (foldCase : Bool) (c : Cursor text.size) : List Nat → Option Nat
  | [] => none
  | group :: rest =>
    match c.took? group with
    | none => referred text foldCase c rest
    | some t =>
      let count := t.stop - t.start
      let size := Utf8.size (text.extract t.start t.stop).toList
      if !hasBytes text c.pos size (c.limit - c.pos) then none
      else if agree foldCase text t.start c.pos size count then some count
      else referred text foldCase c rest

/-- What becomes of the places a way leads to from `c`. -/
abbrev Next {n : Nat} (c : Cursor n) :=
  (d : Cursor n) → c.pos ≤ d.pos → Option (Cursor n)

abbrev Way (n : Nat) := (c : Cursor n) → Next c → Option (Cursor n)

namespace Way

variable {n : Nat}

def first (w : Way n) (c : Cursor n) : Option (Cursor n) := w c fun d _ => some d

def nowhere : Way n := fun _ _ => none

def take (count : Nat) : Way n := fun c next =>
  if h : c.pos + count ≤ c.limit then next (c.moveTo (c.pos + count) h) (Nat.le_add_right ..)
  else none

def takeFound (found : Cursor n → Option Nat) : Way n := fun c next =>
  match found c with
  | some count => take count c next
  | none => none

def stay (test : Cursor n → Bool) : Way n := fun c next =>
  if test c then next c (Nat.le_refl _) else none

def keep : Way n := fun c next => next { c with keep := some c.pos } (Nat.le_refl _)

def andThen (a b : Way n) : Way n := fun c next =>
  a c fun d h => b d fun e h' => next e (Nat.le_trans h h')

def orElse (a b : Way n) : Way n := fun c next => a c next <|> b c next

def group (index : Nat) (body : Way n) : Way n := fun c next =>
  body (c.enter index) fun d h =>
    have h : c.pos ≤ d.pos := c.enter_pos index ▸ h
    next (d.leave index c.pos h) h

def once (body : Way n) : Way n := fun c next =>
  match body.first c with
  | some d => if h : c.pos ≤ d.pos then next d h else none
  | none => none

/-- Stays at the cursor if a look at the text found something, or, if `negative`, nothing. What the
groups took in the look is kept. -/
def look (negative : Bool) (found : Cursor n → Option (Cursor n)) : Way n := fun c next =>
  match negative, found c with
  | false, some d => next (d.returnTo c) (Nat.le_refl _)
  | true, none => next c (Nat.le_refl _)
  | _, _ => none

/-- A way that ends at the cursor and begins `least` to `most` characters before it. Where these
differ, nothing is taken beyond the cursor. -/
def reaching (body : Way n) (least : Nat) (most : Option Nat) (c : Cursor n) :
    Option (Cursor n) :=
  let here := fun start : Cursor n => body start fun d _ => if d.pos = c.pos then some d else none
  if most = some least then if least ≤ c.pos then here (c.back least) else none
  else
    let furthest := most.elim c.pos (min c.pos)
    (List.range' least (furthest + 1 - least)).findSome? fun distance =>
      here (c.backWithin distance)

def run (text : Text) (codes : RangeSet) (least : Nat) (most : Option Nat) (greedy : Bool) :
    Way n := fun c next =>
  let room := c.limit - c.pos
  let found := endOfRun codes text c.pos (most.elim room (min room)) - c.pos
  let use := fun count => take count c next
  if found < least then none
  else if greedy then tryDown use least (found - least)
  else tryUp use least (found - least)

structure Rounds where
  least : Nat
  most : Option Nat
  greedy : Bool
  /-- Groups that a round which takes nothing may change and so go on. -/
  watched : List Nat

/-- The rounds of a loop after the first `done`; `idle` rounds may still take nothing. -/
def rounds (body : Way n) (r : Rounds) (idle done : Nat) : Way n := fun c next =>
  let more := fun (_ : Unit) => body c fun d h =>
    if hpos : c.pos < d.pos then
      rounds body r (r.watched.length + 1) (done + 1) d
        fun e h' => next e (Nat.le_trans h h')
    else
      match idle with
      | 0 => next d h
      | idle + 1 =>
        if r.watched.all (c.sameTook d) then next d h
        else rounds body r idle (done + 1) d fun e h' => next e (Nat.le_trans h h')
  if done < r.least then more ()
  else if r.most.any (· ≤ done) then next c (Nat.le_refl _)
  else if r.greedy then more () <|> next c (Nat.le_refl _)
  else next c (Nat.le_refl _) <|> more ()
termination_by c => (n - c.pos, idle)
decreasing_by
  · have := d.pos_le_size
    exact Prod.Lex.left _ _ (by omega)
  · have := Nat.le_antisymm h (Nat.le_of_not_lt hpos)
    rw [this]
    exact Prod.Lex.right _ (by omega)

def loop (body : Way n) (r : Rounds) : Way n := rounds body r (r.watched.length + 1) 0

end Way

/-- How deep calls may nest. The place where a called group stands calls it too. -/
def callDepth : Nat := 20

/-- The way through a node; `called` are the ways through the groups that are called. -/
def Node.way (text : Text) (origin : Nat) (called : Nat → Way text.size) : Node → Way text.size
  | .empty => .stay fun _ => true
  | .fail => .nowhere
  | .text codes _ => .takeFound fun c =>
    if hasCodes text c.pos codes then some codes.length else none
  | .one codes => .takeFound fun c =>
    if text[c.pos]?.any codes.containsChar then some 1 else none
  | .newline => .takeFound fun c => lineEndAt? text c.pos c.limit
  | .edge e => .stay fun c => e.holds text origin c.limit c.pos
  | .keep => .keep
  | .seq a b => .andThen (a.way text origin called) (b.way text origin called)
  | .alt a b => .orElse (a.way text origin called) (b.way text origin called)
  | .inner _ body => body.way text origin called
  | .loop (.one codes) least most greedy _ => .run text codes least most greedy
  | .loop body least most greedy watched =>
    .loop (body.way text origin called) ⟨least, most, greedy, watched⟩
  | .group index body => .group index (body.way text origin called)
  | .atomic body => .once (body.way text origin called)
  | .ahead negative body => .look negative (body.way text origin called).first
  | .behind negative body least most =>
    .look negative ((body.way text origin called).reaching least most)
  | .backRef groups foldCase _ => .takeFound fun c => referred text foldCase c groups.reverse
  | .call index => called index

namespace Regex

variable (regex : Regex)

def callWay (text : Text) (origin : Nat) : (depth : Nat) → (group : Nat) → Way text.size
  | 0, _ => .nowhere
  | depth + 1, 0 => (regex.body 0).way text origin (callWay text origin depth)
  | depth + 1, group + 1 =>
    .group (group + 1) ((regex.body (group + 1)).way text origin (callWay text origin depth))

def matchAt (text : Text) (origin pos : Nat) : Option Groups :=
  if h : pos ≤ text.size then
    let way := regex.root.way text origin (regex.callWay text origin callDepth)
    (way.first (.fresh regex.bodies.size pos h)).map fun d =>
      ⟨⟨min (d.keep.getD pos) d.pos, d.pos⟩,
        regex.captures.map fun group => (d.took? group).map fun t => ⟨t.start, t.stop⟩⟩
  else none

/-- The first match at `pos` or one of the `more` positions after it. -/
def searchFrom (text : Text) (origin pos : Nat) : (more : Nat) → Option Groups
  | 0 => regex.matchAt text origin pos
  | more + 1 => regex.matchAt text origin pos <|> searchFrom text origin (pos + 1) more

def matcher : Matcher :=
  ⟨regex.captures.length, fun text origin =>
    if origin ≤ text.size then regex.searchFrom text origin origin (text.size - origin) else none⟩

end Regex

/-- Patterns of this library, and more room than a native stack has. -/
def engine : Engine where
  compile? source := (read source).toOption.map Regex.matcher
  room := 1000000000000

end Highlighting.Pattern
