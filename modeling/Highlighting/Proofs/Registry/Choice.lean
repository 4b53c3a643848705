import Highlighting.Proofs.Registry.Contributions
import Highlighting.Proofs.Registry.FirstLine

/-!
Which language a path is found to be of: by the name of the file, by its extension, or by its first
line.
-/
namespace Highlighting

section Lists
variable {α β : Type}

theorem eq_or_mem_of_append {xs before after before' after' : List α} {x x' : α}
    (h : xs = before ++ x :: after) (h' : xs = before' ++ x' :: after') :
    x = x' ∨ x ∈ before' ∨ x' ∈ before := by
  subst h
  obtain ⟨between, rfl, hrest⟩ | ⟨between, rfl, hrest⟩ := List.append_eq_append_iff.1 h'
  · cases between with
    | nil => simp_all
    | cons y between => simp_all
  · cases between with
    | nil => simp_all
    | cons y between => simp_all

theorem split_flatMap {f : α → List β} {xs : List α} {first last : List β} {b : β}
    (h : xs.flatMap f = first ++ b :: last) : ∃ before x after, xs = before ++ x :: after ∧
      b ∈ f x ∧ ∀ y ∈ before, f y ⊆ first := by
  induction xs generalizing first with
  | nil => simp at h
  | cons y xs ih =>
    rw [List.flatMap_cons, List.append_eq_append_iff] at h
    obtain ⟨more, rfl, hrest⟩ | ⟨here, hy, hrest⟩ := h
    · obtain ⟨before, x, after, rfl, hb, hbefore⟩ := ih hrest
      refine ⟨y :: before, x, after, rfl, hb, ?_⟩
      intro z hz
      obtain rfl | hz := List.mem_cons.1 hz
      · exact List.subset_append_left _ _
      · exact List.subset_append_of_subset_right _ (hbefore z hz)
    · cases here with
      | nil =>
        have hlater : xs.flatMap f = [] ++ b :: last := hrest.symm
        obtain ⟨before, x, after, rfl, hb, hbefore⟩ := ih hlater
        refine ⟨y :: before, x, after, rfl, hb, ?_⟩
        intro z hz
        obtain rfl | hz := List.mem_cons.1 hz
        · simp [hy]
        · exact List.Subset.trans (hbefore z hz) (List.nil_subset _)
      | cons c here =>
        obtain ⟨rfl, -⟩ := List.cons.inj hrest
        exact ⟨[], y, xs, rfl, by simp [hy], by simp⟩

theorem findSome?_filter_isSome (f : α → Option β) (p : α → Bool) (xs : List α) :
    ((xs.filter fun x => (f x).isSome).filter p).findSome? f = (xs.filter p).findSome? f := by
  rw [List.filter_filter]
  induction xs with
  | nil => rfl
  | cons x xs ih =>
    cases hx : f x with
    | none => cases hp : p x <;> simp [hx, hp, ih]
    | some b => cases hp : p x <;> simp [hx, hp, ih]

theorem flatMap_filter_isSome {γ : Type} {f : α → Option β} {g : α → List γ}
    (h : ∀ x, f x = none → g x = []) (xs : List α) :
    (xs.filter fun x => (f x).isSome).flatMap g = xs.flatMap g := by
  induction xs with
  | nil => rfl
  | cons x xs ih =>
    cases hx : f x with
    | none => simp [hx, ih, h x hx]
    | some b => simp [hx, ih]

end Lists

namespace Registry

theorem utf8ByteSize_le_iff {text : List Char} {a b : String} (ha : a.toList <:+ text)
    (hb : b.toList <:+ text) : a.utf8ByteSize ≤ b.utf8ByteSize ↔ a.length ≤ b.length := by
  obtain ⟨front, hfront⟩ | ⟨front, hfront⟩ := List.suffix_or_suffix_of_suffix ha hb
  · have hsplit : b = String.ofList front ++ a := String.toList_inj.1 (by simp [hfront])
    simp [hsplit, String.utf8ByteSize_append]
  · have hsplit : a = String.ofList front ++ b := String.toList_inj.1 (by simp [hfront])
    simp [hsplit, String.utf8ByteSize_append, String.utf8ByteSize_eq_zero_iff]

section Choice
variable (files : Files) (r : Registry) (path : Path)

def ListsName (l : Language) : Prop :=
  (r.scopeOf l).isSome ∧ ∃ name, path.fileName? = some name ∧ name ∈ l.filenames

def ListsEnding (l : Language) (extension : String) : Prop :=
  (r.scopeOf l).isSome ∧ extension ∈ l.extensions ∧ ∃ name, path.fileName? = some name ∧
    extension.toList <:+ (Unicode.toLower name).toList

def Unlisted : Prop :=
  ∀ l ∈ r.languages, ¬ r.ListsName path l ∧ ∀ e, ¬ r.ListsEnding path l e

def KnowsLine (line : List Char) (l : Language) : Prop :=
  (r.scopeOf l).isSome ∧ startsWith line l = true

def IsFirst (P : Language → Prop) (languages : List Language) (l : Language) : Prop :=
  ∃ before after, languages = before ++ l :: after ∧ P l ∧ ∀ other ∈ before, ¬ P other

/-- None of some languages has a longer extension that the name ends in, and none before it one that
is as long. -/
def IsLongest (languages : List Language) (l : Language) : Prop :=
  ∃ before after extension, languages = before ++ l :: after ∧ r.ListsEnding path l extension ∧
    (∀ other ∈ languages, ∀ e, r.ListsEnding path other e → e.length ≤ extension.length) ∧
    ∀ other ∈ before, ∀ e, r.ListsEnding path other e → e.length < extension.length

def opening (bytes : List UInt8) : List UInt8 := (Lines.through 10 bytes).take firstLineLimit

/-- The line that a file is seen to start with, without the marks of line ends. None is seen if
there is no file, or if what is looked at is no text, whatever comes behind it. -/
inductive Sees : Option (List Char) → Prop
  | line {bytes : List UInt8} {kept line : List Char} : files.content? path = some bytes →
      Utf8.decode (opening bytes) = some kept → Lines.Trims kept line → Sees (some line)
  | missing : files.content? path = none → Sees none
  | garbled {bytes : List UInt8} : files.content? path = some bytes →
      (∀ more, Utf8.decode (opening bytes ++ more) = none) → Sees none

/-- What is looked at ends inside a character. -/
def IsCut : Prop :=
  ∃ bytes, files.content? path = some bytes ∧ Utf8.decode (opening bytes) = none ∧
    ∃ more, Utf8.decode (opening bytes ++ more) ≠ none

def AsksForLine : Prop := ∃ l ∈ r.languages, (r.scopeOf l).isSome ∧ l.firstLine.isSome

/-- The language that a path is of, or none. A line that is cut leaves it open, unless no language
asks for the line. -/
inductive Chosen : Option Language → Prop
  | name {l : Language} : IsFirst (r.ListsName path) r.languages l → Chosen (some l)
  | extension {l : Language} : (∀ other ∈ r.languages, ¬ r.ListsName path other) →
      r.IsLongest path r.languages l → Chosen (some l)
  | firstLine {l : Language} {line : List Char} : r.Unlisted path → Sees files path (some line) →
      IsFirst (r.KnowsLine line) r.languages l → Chosen (some l)
  | unknown {seen : Option (List Char)} : r.Unlisted path → Sees files path seen →
      (∀ line ∈ seen, ∀ other ∈ r.languages, ¬ r.KnowsLine line other) → Chosen none
  | unasked : r.Unlisted path → ¬ r.AsksForLine → Chosen none

end Choice

variable {files : Files} {r : Registry} {path : Path} {l l' : Language}

theorem IsFirst.mem {P : Language → Prop} {languages : List Language} (h : IsFirst P languages l) :
    l ∈ languages ∧ P l := by
  obtain ⟨before, after, rfl, hl, -⟩ := h
  exact ⟨by simp, hl⟩

theorem exists_isFirst {P : Language → Prop} {languages : List Language} (hmem : l ∈ languages)
    (h : P l) : ∃ first, IsFirst P languages first := by
  induction languages with
  | nil => cases hmem
  | cons other languages ih =>
    by_cases hother : P other
    · exact ⟨other, [], languages, rfl, hother, by simp⟩
    · have hne : l ≠ other := by
        rintro rfl
        exact hother h
      obtain ⟨first, before, after, rfl, hfirst, hbefore⟩ := ih (List.mem_of_ne_of_mem hne hmem)
      exact ⟨first, other :: before, after, rfl, hfirst, List.forall_mem_cons.2 ⟨hother, hbefore⟩⟩

theorem IsLongest.mem {languages : List Language} (h : r.IsLongest path languages l) :
    l ∈ languages ∧ ∃ e, r.ListsEnding path l e := by
  obtain ⟨before, after, extension, rfl, hl, -⟩ := h
  exact ⟨by simp, extension, hl⟩

theorem IsLongest.unique {languages : List Language} (h : r.IsLongest path languages l)
    (h' : r.IsLongest path languages l') : l = l' := by
  have hmem := h.mem.1
  have hmem' := h'.mem.1
  obtain ⟨before, after, e, hsplit, hl, hall, hbefore⟩ := h
  obtain ⟨before', after', e', hsplit', hl', hall', hbefore'⟩ := h'
  have hle := hall l' hmem' e' hl'
  have hle' := hall' l hmem e hl
  obtain heq | hthere | hthere := eq_or_mem_of_append hsplit hsplit'
  · exact heq
  · have hlt := hbefore' l hthere e hl
    omega
  · have hlt := hbefore l' hthere e' hl'
    omega

section Kept
variable {P : Language → Prop} {kept : Language → Bool} {languages : List Language}

theorem findSome?_eq_none (hP : ∀ l, P l ↔ (r.scopeOf l).isSome ∧ kept l = true)
    (h : ∀ l ∈ languages, ¬ P l) : (languages.filter kept).findSome? r.scopeOf = none := by
  refine List.findSome?_eq_none_iff.2 fun l hl => ?_
  obtain ⟨hmem, hkept⟩ := List.mem_filter.1 hl
  by_contra hscope
  exact h l hmem ((hP l).2 ⟨Option.isSome_iff_ne_none.2 hscope, hkept⟩)

theorem IsFirst.findSome?_eq (hP : ∀ l, P l ↔ (r.scopeOf l).isSome ∧ kept l = true)
    (h : IsFirst P languages l) : (languages.filter kept).findSome? r.scopeOf = r.scopeOf l := by
  obtain ⟨before, after, rfl, hl, hbefore⟩ := h
  obtain ⟨hscope, hkept⟩ := (hP l).1 hl
  obtain ⟨scope, hscope⟩ := Option.isSome_iff_exists.1 hscope
  rw [List.filter_append, List.filter_cons_of_pos hkept, List.findSome?_append,
    findSome?_eq_none hP hbefore, List.findSome?_cons, hscope]
  rfl

end Kept

def endings (r : Registry) (name : String) (l : Language) : List (String × String) :=
  match r.scopeOf l with
  | some scope => (l.extensions.map (·, scope)).filter fun e => endsIn (Unicode.toLower name) e.1
  | none => []

theorem filter_extensions (r : Registry) (name : String) :
    (r.extensions.filter fun e => endsIn (Unicode.toLower name) e.1) =
      r.languages.flatMap (r.endings name) := by
  rw [extensions, List.filter_flatMap]
  congr 1
  funext l
  unfold endings
  cases r.scopeOf l <;> rfl

theorem mem_endings {name : String} (hname : path.fileName? = some name) {e : String × String} :
    e ∈ r.endings name l ↔ r.scopeOf l = some e.2 ∧ r.ListsEnding path l e.1 := by
  obtain ⟨extension, scope⟩ := e
  unfold endings ListsEnding
  cases hscope : r.scopeOf l with
  | none => simp
  | some known =>
    simp only [List.mem_filter, List.mem_map, endsIn, List.isSuffixOf_iff_suffix, hname,
      Option.some.injEq, exists_eq_left', Option.isSome_some, true_and, Prod.mk.injEq]
    constructor
    · rintro ⟨⟨_, hlisted, rfl, rfl⟩, hends⟩
      exact ⟨rfl, hlisted, hends⟩
    · rintro ⟨rfl, hlisted, hends⟩
      exact ⟨⟨_, hlisted, rfl, rfl⟩, hends⟩

theorem ListsEnding.suffix {name e : String} (h : r.ListsEnding path l e)
    (hname : path.fileName? = some name) : e.toList <:+ (Unicode.toLower name).toList := by
  obtain ⟨-, -, other, hother, hends⟩ := h
  obtain rfl : name = other := Option.some.inj (hname.symm.trans hother)
  exact hends

theorem isLongest_of_foldl {name : String} (hname : path.fileName? = some name)
    {best : String × String}
    (h : (r.languages.flatMap (r.endings name)).foldl longer none = some best) :
    ∃ l, r.IsLongest path r.languages l ∧ r.scopeOf l = some best.2 := by
  obtain ⟨-, hnone⟩ | ⟨found, hfound, hlongest⟩ :=
    longest_cases (r.languages.flatMap (r.endings name))
  · cases hnone.symm.trans h
  obtain rfl : found = best := Option.some.inj (hfound.symm.trans h)
  have hall := hlongest.le
  obtain ⟨front, back, hsplit, hfront, -⟩ := hlongest
  obtain ⟨before, l, after, hlanguages, hl, hbefore⟩ := split_flatMap hsplit
  obtain ⟨hscope, hends⟩ := (mem_endings hname).1 hl
  have hlisted : ∀ other e, r.ListsEnding path other e →
      ∃ scope, (e, scope) ∈ r.endings name other := by
    intro other e he
    obtain ⟨scope, hscope⟩ := Option.isSome_iff_exists.1 he.1
    exact ⟨scope, (mem_endings (e := (e, scope)) hname).2 ⟨hscope, he⟩⟩
  refine ⟨l, ⟨before, after, found.1, hlanguages, hends, ?_, ?_⟩, hscope⟩
  · intro other hother e he
    obtain ⟨scope, hmem⟩ := hlisted other e he
    rw [← utf8ByteSize_le_iff (he.suffix hname) (hends.suffix hname)]
    exact hall _ (List.mem_flatMap.2 ⟨other, hother, hmem⟩)
  · intro other hother e he
    obtain ⟨scope, hmem⟩ := hlisted other e he
    rw [← Nat.not_le, ← utf8ByteSize_le_iff (hends.suffix hname) (he.suffix hname), Nat.not_le]
    exact hfront _ (hbefore other hother hmem)

theorem not_listsEnding_of_foldl {name : String} (hname : path.fileName? = some name)
    (h : (r.languages.flatMap (r.endings name)).foldl longer none = none) :
    ∀ l ∈ r.languages, ∀ e, ¬ r.ListsEnding path l e := by
  intro l hl e he
  obtain ⟨scope, hscope⟩ := Option.isSome_iff_exists.1 he.1
  have hmem := List.mem_flatMap.2 ⟨l, hl, (mem_endings (e := (e, scope)) hname).2 ⟨hscope, he⟩⟩
  obtain ⟨hempty, -⟩ | ⟨best, hbest, -⟩ := longest_cases (r.languages.flatMap (r.endings name))
  · rw [hempty] at hmem
    cases hmem
  · cases h.symm.trans hbest

theorem scopeOfName?_of_isFirst (h : IsFirst (r.ListsName path) r.languages l) :
    path.fileName?.bind r.scopeOfName? = r.scopeOf l := by
  obtain ⟨-, hscope, name, hname, -⟩ := h.mem
  obtain ⟨scope, hscope⟩ := Option.isSome_iff_exists.1 hscope
  have hlists : ∀ l, r.ListsName path l ↔
      (r.scopeOf l).isSome ∧ l.filenames.contains name = true := by simp [ListsName, hname]
  rw [hname, Option.bind_some, scopeOfName?, h.findSome?_eq hlists, hscope]

theorem scopeOfName?_of_not_listsName {name : String} (hname : path.fileName? = some name)
    (h : ∀ other ∈ r.languages, ¬ r.ListsName path other) :
    path.fileName?.bind r.scopeOfName? =
      ((r.languages.flatMap (r.endings name)).foldl longer none).map (·.2) := by
  have hlists : ∀ l, r.ListsName path l ↔
      (r.scopeOf l).isSome ∧ l.filenames.contains name = true := by simp [ListsName, hname]
  rw [hname, Option.bind_some, scopeOfName?, findSome?_eq_none hlists h, ← filter_extensions]

theorem scopeOfName?_of_isLongest (hno : ∀ other ∈ r.languages, ¬ r.ListsName path other)
    (h : r.IsLongest path r.languages l) :
    path.fileName?.bind r.scopeOfName? = r.scopeOf l := by
  obtain ⟨hmem, e, hl⟩ := h.mem
  obtain ⟨name, hname, -⟩ := hl.2.2
  rw [scopeOfName?_of_not_listsName hname hno]
  cases hbest : (r.languages.flatMap (r.endings name)).foldl longer none with
  | none => exact absurd hl (not_listsEnding_of_foldl hname hbest l hmem e)
  | some best =>
    obtain ⟨l', hlongest, hscope⟩ := isLongest_of_foldl hname hbest
    rw [h.unique hlongest, hscope]
    rfl

theorem Unlisted.scopeOfName?_eq (h : r.Unlisted path) :
    path.fileName?.bind r.scopeOfName? = none := by
  cases hname : path.fileName? with
  | none => rfl
  | some name =>
    rw [← hname, scopeOfName?_of_not_listsName hname fun other hother => (h other hother).1]
    cases hbest : (r.languages.flatMap (r.endings name)).foldl longer none with
    | none => rfl
    | some best =>
      obtain ⟨l, hlongest, -⟩ := isLongest_of_foldl hname hbest
      obtain ⟨hmem, e, hl⟩ := hlongest.mem
      exact absurd hl ((h l hmem).2 e)

theorem exists_isLongest (hmem : l ∈ r.languages) {e : String} (hl : r.ListsEnding path l e) :
    ∃ first, r.IsLongest path r.languages first := by
  obtain ⟨name, hname, -⟩ := hl.2.2
  cases hbest : (r.languages.flatMap (r.endings name)).foldl longer none with
  | none => exact absurd hl (not_listsEnding_of_foldl hname hbest l hmem e)
  | some best =>
    obtain ⟨first, hlongest, -⟩ := isLongest_of_foldl hname hbest
    exact ⟨first, hlongest⟩

theorem sees_or_isCut (files : Files) (path : Path) :
    (∃ seen, Sees files path seen) ∨ IsCut files path := by
  cases hfile : files.content? path with
  | none => exact .inl ⟨none, .missing hfile⟩
  | some bytes =>
    cases hkept : Utf8.decode (opening bytes) with
    | some kept => exact .inl ⟨_, .line hfile hkept (Lines.trimEnd_eq_iff.1 rfl)⟩
    | none =>
      by_cases hmore : ∀ more, Utf8.decode (opening bytes ++ more) = none
      · exact .inl ⟨none, .garbled hfile hmore⟩
      · push Not at hmore
        exact .inr ⟨bytes, hfile, hkept, hmore⟩

theorem Sees.first?_eq {seen : Option (List Char)} (h : Sees files path seen) :
    (files.content? path).bind (Lines.first? firstLineLimit) = seen := by
  cases h with
  | @line bytes kept line hfile hkept htrims =>
    rw [hfile, Option.bind_some, Lines.first?, Lines.through_take, ← opening, hkept,
      Option.map_some,
      Lines.trimEnd_eq_iff.2 htrims]
  | missing hfile => rw [hfile, Option.bind_none]
  | @garbled bytes hfile hmore =>
    have hnone := hmore []
    rw [List.append_nil] at hnone
    rw [hfile, Option.bind_some, Lines.first?, Lines.through_take, ← opening, hnone,
      Option.map_none]

theorem scopeOfFirstLine?_of_sees {seen : Option (List Char)} (h : Sees files path seen) :
    r.scopeOfFirstLine? files path =
      seen.bind fun line => (r.languages.filter (startsWith line)).findSome? r.scopeOf := by
  rw [← h.first?_eq]
  cases hfile : files.content? path with
  | none => simp [scopeOfFirstLine?, hfile]
  | some bytes => exact scopeOfFirstLine?_eq r hfile

theorem scopeOfFirstLine?_of_not_asks (h : ¬ r.AsksForLine) (files : Files) (path : Path) :
    r.scopeOfFirstLine? files path = none := by
  cases hfile : files.content? path with
  | none => simp [scopeOfFirstLine?, hfile]
  | some bytes =>
    rw [scopeOfFirstLine?_eq r hfile]
    refine Option.bind_eq_none_iff.2 fun line _ => findSome?_eq_none (fun l => Iff.rfl) ?_
    rintro l hmem ⟨hscope, hline⟩
    have hpattern : l.firstLine.isSome := by
      cases hfirst : l.firstLine with
      | none => simp [startsWith, hfirst] at hline
      | some m => rfl
    exact h ⟨l, hmem, hscope, hpattern⟩

theorem Chosen.found?_eq {choice : Option Language} (h : r.Chosen files path choice) :
    r.found? files path = choice.bind r.scopeOf := by
  have hlater : ∀ {a b : Option String}, a = none → (a <|> b) = b := by
    rintro _ b rfl
    rfl
  have hnow : ∀ {l : Language} {b : Option String}, (r.scopeOf l).isSome →
      (r.scopeOf l <|> b) = r.scopeOf l := by
    intro l b hscope
    obtain ⟨scope, hscope⟩ := Option.isSome_iff_exists.1 hscope
    rw [hscope]
    rfl
  unfold found?
  cases h with
  | name h => rw [scopeOfName?_of_isFirst h, hnow h.mem.2.1, Option.bind_some]
  | extension hno h =>
    obtain ⟨-, e, hl⟩ := h.mem
    rw [scopeOfName?_of_isLongest hno h, hnow hl.1, Option.bind_some]
  | firstLine hno hsees h =>
    rw [hlater hno.scopeOfName?_eq, scopeOfFirstLine?_of_sees hsees, Option.bind_some,
      h.findSome?_eq fun l => Iff.rfl, Option.bind_some]
  | @unknown seen hno hsees h =>
    rw [hlater hno.scopeOfName?_eq, scopeOfFirstLine?_of_sees hsees]
    exact Option.bind_eq_none_iff.2 fun line hline =>
      findSome?_eq_none (fun l => Iff.rfl) (h line hline)
  | unasked hno h =>
    rw [hlater hno.scopeOfName?_eq, scopeOfFirstLine?_of_not_asks h, Option.bind_none]

theorem Chosen.scopeOf_isSome (h : r.Chosen files path (some l)) : (r.scopeOf l).isSome := by
  cases h with
  | name h => exact h.mem.2.1
  | extension _ h =>
    obtain ⟨-, e, hl⟩ := h.mem
    exact hl.1
  | firstLine _ _ h => exact h.mem.2.1

theorem chosen_or_isCut (r : Registry) (files : Files) (path : Path) :
    (∃ choice, r.Chosen files path choice) ∨ IsCut files path ∧ r.AsksForLine := by
  by_cases hname : ∃ l ∈ r.languages, r.ListsName path l
  · obtain ⟨l, hmem, hl⟩ := hname
    obtain ⟨first, hfirst⟩ := exists_isFirst hmem hl
    exact .inl ⟨_, .name hfirst⟩
  by_cases hending : ∃ l ∈ r.languages, ∃ e, r.ListsEnding path l e
  · obtain ⟨l, hmem, e, hl⟩ := hending
    obtain ⟨first, hfirst⟩ := exists_isLongest hmem hl
    exact .inl ⟨_, .extension (by simpa using hname) hfirst⟩
  have hunlisted : r.Unlisted path := fun l hmem =>
    ⟨fun hl => hname ⟨l, hmem, hl⟩, fun e hl => hending ⟨l, hmem, e, hl⟩⟩
  by_cases hasks : r.AsksForLine
  · obtain ⟨seen, hsees⟩ | hcut := sees_or_isCut files path
    · left
      by_cases hknown : ∃ line ∈ seen, ∃ l ∈ r.languages, r.KnowsLine line l
      · obtain ⟨line, rfl, l, hmem, hl⟩ := hknown
        obtain ⟨first, hfirst⟩ := exists_isFirst hmem hl
        exact ⟨_, .firstLine hunlisted hsees hfirst⟩
      · exact ⟨_, .unknown hunlisted hsees (by simpa using hknown)⟩
    · exact .inr ⟨hcut, hasks⟩
  · exact .inl ⟨_, .unasked hunlisted hasks⟩

/-- The registry without the languages that have no grammar. -/
def graded (r : Registry) : Registry :=
  r.listing r.roots (r.languages.filter fun l => (r.scopeOf l).isSome)

theorem found?_graded (r : Registry) (files : Files) (path : Path) :
    r.graded.found? files path = r.found? files path := by
  have hscopeOf : r.graded.scopeOf = r.scopeOf := rfl
  have hlanguages : r.graded.languages = r.languages.filter fun l => (r.scopeOf l).isSome := rfl
  have hextensions : r.graded.extensions = r.extensions := by
    unfold extensions
    rw [hscopeOf, hlanguages]
    refine flatMap_filter_isSome (fun l hl => ?_) r.languages
    rw [hl]
  have hname : r.graded.scopeOfName? = r.scopeOfName? := by
    funext name
    simp only [scopeOfName?, hscopeOf, hlanguages, hextensions, findSome?_filter_isSome]
  simp only [found?, hname, scopeOfFirstLine?, hscopeOf, hlanguages, findSome?_filter_isSome]

/-- A path that has not been looked up is given the scope name of the language that is chosen for
it, or no grammar is found. There is a choice for every path, unless its first line is asked for and
what is looked at of it ends inside a character. Without the languages that have no grammar, each
run of queries is answered as with them. -/
theorem scopeName_of_chosen (h : r.resolved.get? path.components = none) (files : Files) :
    (∀ l, r.Chosen files path (some l) →
      ∃ scope, r.scopeOf l = some scope ∧ (r.scopeName files path).1 = .ok scope) ∧
    (r.Chosen files path none → (r.scopeName files path).1 = .error (.grammarNotFound path)) ∧
    ((∃ choice, r.Chosen files path choice) ∨ IsCut files path ∧ r.AsksForLine) ∧
    (r.graded.scopeName files path).1 = (r.scopeName files path).1 ∧
    ∀ queries, r.graded.answers queries = r.answers queries := by
  have hfound := scopeName_eq_found h files
  refine ⟨fun l hl => ?_, fun hnone => ?_, chosen_or_isCut r files path, ?_, fun queries => ?_⟩
  · obtain ⟨scope, hscope⟩ := Option.isSome_iff_exists.1 hl.scopeOf_isSome
    rw [hfound, hl.found?_eq, Option.bind_some, hscope]
    exact ⟨scope, rfl, rfl⟩
  · rw [hfound, hnone.found?_eq]
    rfl
  · have hgraded : r.graded.resolved.get? path.components = none := h
    rw [hfound, scopeName_eq_found hgraded, found?_graded]
  · exact answers_listing (found?_graded r) queries

theorem scopeName_of_chosen_tie :
    let p : Language := ⟨"p", [".json"], ["g.json"], none⟩
    let j : Language := ⟨"j", [".json"], [], none⟩
    let k : Language := ⟨"k", [".json"], [], none⟩
    let r : Registry :=
      { engine := Sample.engine, roots := [], languages := [p, j, k],
        languageScopes := ⟨[("k", "source.k"), ("j", "source.j")]⟩ }
    r.resolved.get? (Path.mk "e/g.json").components = none ∧
      (r.scopeName Files.empty ⟨"e/g.json"⟩).1 = .ok "source.j" ∧
      (r.graded.scopeName Files.empty ⟨"e/g.json"⟩).1 = .ok "source.j" := by
  intro p j k r
  have hfresh : r.resolved.get? (Path.mk "e/g.json").components = none := rfl
  have hname : (Path.mk "e/g.json").fileName? = some "g.json" := by decide +kernel
  have hends : ".json".toList <:+ (Unicode.toLower "g.json").toList := by
    rw [Sample.toLower_source]
    decide +kernel
  have hplain : ¬ (r.scopeOf p).isSome := by decide +kernel
  have hscope : r.scopeOf j = some "source.j" := by decide +kernel
  have hunnamed : ∀ other ∈ r.languages, ¬ r.ListsName ⟨"e/g.json"⟩ other := by
    rintro other hother ⟨hsome, name, -, hlisted⟩
    have hfilenames : other = p ∨ other.filenames = [] := by
      obtain rfl | rfl | rfl : other = p ∨ other = j ∨ other = k := by simpa [r] using hother
      · exact .inl rfl
      · exact .inr rfl
      · exact .inr rfl
    obtain rfl | hempty := hfilenames
    · exact hplain hsome
    · simp [hempty] at hlisted
  have hlongest : r.IsLongest ⟨"e/g.json"⟩ r.languages j := by
    refine ⟨[p], [k], ".json", rfl, ⟨by simp [hscope], by simp [j], "g.json", hname, hends⟩, ?_, ?_⟩
    · intro other hother e he
      have hextensions : other.extensions = [".json"] := by
        obtain rfl | rfl | rfl : other = p ∨ other = j ∨ other = k := by simpa [r] using hother
        all_goals rfl
      obtain rfl : e = ".json" := by simpa [hextensions] using he.2.1
      exact Nat.le_refl _
    · rintro other hother e ⟨hsome, -⟩
      obtain rfl := List.mem_singleton.1 hother
      exact absurd hsome hplain
  obtain ⟨hchosen, -, -, hgraded, -⟩ := scopeName_of_chosen hfresh Files.empty
  obtain ⟨scope, hone, hanswer⟩ := hchosen j (.extension hunnamed hlongest)
  obtain rfl := Option.some.inj (hscope.symm.trans hone)
  exact ⟨hfresh, hanswer, hgraded.trans hanswer⟩

end Registry

def Sample.lastly (c : Char) : Matcher where
  groupCount := 0
  search text position :=
    if position < text.size ∧ text.back? = some c then some ⟨⟨text.size - 1, text.size⟩, []⟩
      else none

namespace Registry

/-- A pattern that is found only behind what is looked at of a first line is not found. -/
theorem scopeName_beyond :
    ¬ ∀ (files : Files) (r : Registry) (path : Path) (bytes : List UInt8) (line left : List Char)
      (l : Language), r.resolved.get? path.components = none → r.Unlisted path →
      files.content? path = some bytes → Lines.IsFirst bytes line → Lines.Trims line left →
      IsFirst (r.KnowsLine left) r.languages l →
      ∃ scope, r.scopeOf l = some scope ∧ (r.scopeName files path).1 = .ok scope := by
  intro h
  let line := List.replicate 1024 'k' ++ ['x']
  let files : Files := ⟨[("b", .file (Utf8.encode line))], []⟩
  let l : Language := ⟨"k", [], [], some (Sample.lastly 'x')⟩
  let r : Registry :=
    { engine := Sample.engine, roots := [], languages := [l],
      languageScopes := ⟨[("k", "source.k")]⟩ }
  have hfile : files.content? ⟨"b"⟩ = some (Utf8.encode line) := by decide +kernel
  have hline : Lines.IsFirst (Utf8.encode line) line := .last (by decide +kernel)
  have hlast : line.getLast? = some 'x' := List.getLast?_concat
  have htrims : Lines.Trims line line := ⟨[], (List.append_nil line).symm, by simp, by simp [hlast]⟩
  have hknows : r.KnowsLine line l := by
    constructor
    · decide +kernel
    · decide +kernel
  have hnone : r.found? files ⟨"b"⟩ = none := by decide +kernel
  have hfresh : r.resolved.get? (Path.mk "b").components = none := rfl
  have hunlisted : r.Unlisted ⟨"b"⟩ := by simp [Unlisted, r, l, ListsName, ListsEnding]
  obtain ⟨scope, -, hscope⟩ := h files r ⟨"b"⟩ _ line line l hfresh hunlisted hfile hline htrims
    ⟨[], [], rfl, hknows, by simp⟩
  rw [scopeName_eq_found hfresh, hnone] at hscope
  cases hscope

end Registry

end Highlighting
