import Highlighting.Request
import Mathlib

/-! Which calls are requests, and what a request tells of its arguments. -/
namespace Highlighting

def Number.Fits : Number → Prop
  | .natural n => n ≤ Words.largest
  | .negative n => 1 ≤ n ∧ n ≤ Nat.pow 2 63
  | .real _ => True

namespace Numeral

theorem absorb_le {n : Nat} (hn : n ≤ Words.largest) (count : Nat) (digits : List Char) :
    (absorb n count digits).1 ≤ Words.largest := by
  induction digits generalizing n count with
  | nil => exact hn
  | cons c digits ih =>
    by_cases hnext : 10 * n + (Words.digit? c).getD 0 ≤ Words.largest
    · simpa [absorb, hnext] using ih hnext (count + 1)
    · simpa [absorb, hnext] using hn

/-- What digits behind `n` make of it. -/
def worth? (n : Nat) (digits : List Char) : Option Nat :=
  digits.foldlM (fun n c => (Words.digit? c).map (10 * n + ·)) n

theorem worth?_cons {n worth : Nat} {c : Char} {digits : List Char}
    (h : worth? n (c :: digits) = some worth) :
    ∃ d, Words.digit? c = some d ∧ worth? (10 * n + d) digits = some worth := by
  cases hc : Words.digit? c with
  | none => simp [worth?, List.foldlM_cons, hc] at h
  | some d => exact ⟨d, rfl, by simpa [worth?, List.foldlM_cons, hc] using h⟩

theorem le_worth {digits : List Char} {n worth : Nat} (h : worth? n digits = some worth) :
    n ≤ worth := by
  induction digits generalizing n with
  | nil =>
    obtain rfl : n = worth := by simpa [worth?] using h
    exact Nat.le_refl _
  | cons c digits ih =>
    obtain ⟨d, -, hrest⟩ := worth?_cons h
    have hle := ih hrest
    omega

theorem absorb_cases {digits : List Char} {n worth : Nat} (hn : n ≤ Words.largest)
    (hworth : worth? n digits = some worth) (count : Nat) :
    worth ≤ Words.largest ∧ absorb n count digits = (worth, count + digits.length) ∨
      Words.largest < worth ∧ (absorb n count digits).2 < count + digits.length := by
  induction digits generalizing n count with
  | nil =>
    obtain rfl : n = worth := by simpa [worth?] using hworth
    exact .inl ⟨hn, rfl⟩
  | cons c digits ih =>
    obtain ⟨d, hc, hrest⟩ := worth?_cons hworth
    by_cases hnext : 10 * n + d ≤ Words.largest
    · simpa [absorb, hc, hnext, Nat.add_assoc, Nat.add_comm 1] using ih hnext hrest (count + 1)
    · have hle := le_worth hrest
      exact .inr ⟨by omega, by simp [absorb, hc, hnext]⟩

theorem natural_of_value? {numeral : Numeral} {n : Nat} (h : numeral.value? = some (.natural n)) :
    n = (absorb 0 0 numeral.whole).1 ∧ numeral.whole.length ≤ (absorb 0 0 numeral.whole).2 ∧
      numeral.negative = false ∧ numeral.fraction = none ∧ numeral.exponent = none := by
  simp only [value?] at h
  split at h
  · next hplain =>
    simp only [Bool.and_eq_true, decide_eq_true_eq, Option.isNone_iff_eq_none] at hplain
    obtain ⟨⟨hall, hfraction⟩, hexponent⟩ := hplain
    split at h
    · next hsign =>
      obtain ⟨⟩ := h
      exact ⟨rfl, by omega, by simpa using hsign, hfraction, hexponent⟩
    split at h
    · cases h
    split at h
    · cases h
    · obtain ⟨x, -, ⟨⟩⟩ := Option.map_eq_some_iff.1 h
  · obtain ⟨x, -, ⟨⟩⟩ := Option.map_eq_some_iff.1 h

/-- A numeral is read as a natural number if it is written as one that 64 bits hold. -/
theorem value?_eq_natural_iff {numeral : Numeral} {worth : Nat}
    (hworth : Words.digits? numeral.whole = some worth) (n : Nat) :
    numeral.value? = some (.natural n) ↔ n = worth ∧ worth ≤ Words.largest ∧
      numeral.negative = false ∧ numeral.fraction = none ∧ numeral.exponent = none := by
  have hdigits : worth? 0 numeral.whole = some worth := by
    unfold Words.digits? at hworth
    split at hworth
    · cases hworth
    · exact hworth
  have hcases := absorb_cases (Nat.zero_le _) hdigits 0
  rw [Nat.zero_add] at hcases
  constructor
  · intro h
    obtain ⟨hn, hall, hwritten⟩ := natural_of_value? h
    obtain ⟨hle, habsorb⟩ | ⟨-, hfewer⟩ := hcases
    · rw [habsorb] at hn
      exact ⟨hn, hle, hwritten⟩
    · omega
  · rintro ⟨rfl, hle, hsign, hfraction, hexponent⟩
    obtain ⟨-, habsorb⟩ | ⟨hlt, -⟩ := hcases
    · simp [value?, habsorb, hsign, hfraction, hexponent]
    · omega

theorem value?_fits {numeral : Numeral} {n : Number} (h : numeral.value? = some n) : n.Fits := by
  have hle := absorb_le (Nat.zero_le _) 0 numeral.whole
  simp only [value?] at h
  split at h
  · split at h
    · obtain rfl := Option.some.inj h
      exact hle
    split at h
    · obtain rfl := Option.some.inj h
      exact trivial
    split at h
    · next hnonzero hsmall =>
      obtain rfl := Option.some.inj h
      exact ⟨Nat.pos_of_ne_zero hnonzero, hsmall⟩
    · obtain ⟨x, -, rfl⟩ := Option.map_eq_some_iff.1 h
      exact trivial
  · obtain ⟨x, -, rfl⟩ := Option.map_eq_some_iff.1 h
    exact trivial

end Numeral

section Reading
variable {α β : Type} {method : Method} {argument : Argument} {read? : Json → Option α}
    {json : Json}

theorem bind_eq_ok_iff {x : Except RequestFault α} {f : α → Except RequestFault β} {b : β} :
    (x >>= f) = .ok b ↔ ∃ a, x = .ok a ∧ f a = .ok b := by
  cases x <;> simp [bind, Except.bind]

theorem Request.read_eq_ok_iff {a : α} :
    read method argument read? json = .ok a ↔ read? json = some a := by
  unfold read
  cases read? json <;> simp

end Reading

theorem Json.natural?_eq_some_iff {json : Json} {n : Nat} :
    json.natural? = some n ↔ json = .number (.natural n) := by
  unfold natural?
  split <;> simp_all

theorem Json.string?_eq_some_iff {json : Json} {s : String} :
    json.string? = some s ↔ json = .string s := by
  cases json <;> simp [string?]

theorem Json.mapM_string?_eq_some_iff {items : List Json} {lines : List String} :
    items.mapM Json.string? = some lines ↔ items = lines.map .string := by
  induction items generalizing lines with
  | nil => cases lines <;> simp
  | cons item items ih =>
    rw [List.mapM_cons]
    cases lines with
    | nil => simp [Option.bind_eq_some_iff]
    | cons line lines => simp [Option.bind_eq_some_iff, string?_eq_some_iff, ih]

namespace Argument

def Flag (value : Bool) (json : Json) : Prop :=
  json = .bool value ∨ json = .number (.natural value.toNat)

theorem path?_eq_some_iff {json : Json} {path : Path} :
    path? json = some path ↔ json = .string path.text ∧ path.text ≠ "" := by
  obtain ⟨text⟩ := path
  cases json with
  | string s =>
    by_cases hs : s = ""
    · simp +contextual [path?, hs]
    · simp [path?, hs]
      rintro rfl
      exact hs
  | _ => simp [path?]

theorem lines?_eq_some_iff {json : Json} {lines : List String} :
    lines? json = some lines ↔ json = .array (lines.map .string) ∧ lines ≠ [] := by
  cases json with
  | array items =>
    cases items with
    | nil => cases lines <;> simp [lines?]
    | cons item items =>
      have hitems : (item :: items).mapM Json.string? = some lines ↔
          item :: items = lines.map .string := Json.mapM_string?_eq_some_iff
      simp only [lines?, hitems, Json.array.injEq]
      refine ⟨fun h => ⟨h, ?_⟩, fun h => h.1⟩
      rintro rfl
      cases h
  | _ => simp [lines?]

theorem flag?_eq_some_iff {json : Json} {value : Bool} :
    flag? json = some value ↔ Flag value json := by
  unfold flag?
  split
  · cases value <;> simp [Flag]
  · cases value <;> simp [Flag]
  · cases value <;> simp [Flag]
  · next hbool hzero hone =>
    have hno : ¬ Flag value json := by
      rintro (rfl | rfl)
      · exact hbool value rfl
      · cases value
        · exact hzero rfl
        · exact hone rfl
    simp [hno]

def Admits : Argument → Json → Prop
  | .buffer, json | .start, json | .stop, json => ∃ n ≤ Words.largest, json = .number (.natural n)
  | .path, json => ∃ s, s ≠ "" ∧ json = .string s
  | .lines, json => ∃ lines : List String, lines ≠ [] ∧ json = .array (lines.map .string)
  | .refresh, json => ∃ value, Flag value json

theorem natural?_ne_none {json : Json} (h : ∃ n ≤ Words.largest, json = .number (.natural n)) :
    json.natural? ≠ none := by
  obtain ⟨n, -, rfl⟩ := h
  simp [Json.natural?]

theorem path?_ne_none {json : Json} (h : Argument.path.Admits json) : path? json ≠ none := by
  obtain ⟨s, hs, rfl⟩ := h
  simp [path?, hs]

theorem lines?_ne_none {json : Json} (h : Argument.lines.Admits json) : lines? json ≠ none := by
  obtain ⟨lines, hlines, rfl⟩ := h
  simp [lines?_eq_some_iff.2 ⟨rfl, hlines⟩]

theorem flag?_ne_none {json : Json} (h : Argument.refresh.Admits json) : flag? json ≠ none := by
  obtain ⟨value, hvalue⟩ := h
  simp [flag?_eq_some_iff.2 hvalue]

end Argument

namespace Method

def arguments : Method → List Argument
  | .highlight => [.buffer, .path, .lines, .stop, .refresh]
  | .undecorate => [.buffer, .start, .stop]
  | .showScope => [.buffer, .path, .lines]
  | .close => [.buffer]

/-- So many arguments may be given. -/
def Takes (m : Method) (count : Nat) : Prop := m.arity.1 ≤ count ∧ count ≤ m.arity.2

/-- So many arguments, each in its place. -/
inductive Given : Method → List Json → Prop
  | highlight (buffer path lines stop refresh : Json) :
      Given .highlight [buffer, path, lines, stop, refresh]
  | undecorateFrom (buffer start : Json) : Given .undecorate [buffer, start]
  | undecorate (buffer start stop : Json) : Given .undecorate [buffer, start, stop]
  | showScope (buffer path lines : Json) : Given .showScope [buffer, path, lines]
  | close (buffer : Json) : Given .close [buffer]

theorem Takes.given {m : Method} {written : List Json} (h : m.Takes written.length) :
    m.Given written := by
  obtain ⟨hleast, hmost⟩ := h
  cases m with
  | highlight =>
    have hlength : written.length = 5 := Nat.le_antisymm hmost hleast
    obtain ⟨buffer, rest, rfl⟩ := List.exists_cons_of_length_eq_add_one hlength
    obtain ⟨path, lines, stop, refresh, rfl⟩ := List.length_eq_four.1 (Nat.succ.inj hlength)
    exact .highlight buffer path lines stop refresh
  | undecorate =>
    simp only [arity] at hleast hmost
    obtain hlength | hlength : written.length = 2 ∨ written.length = 3 := by omega
    · obtain ⟨buffer, start, rfl⟩ := List.length_eq_two.1 hlength
      exact .undecorateFrom buffer start
    · obtain ⟨buffer, start, stop, rfl⟩ := List.length_eq_three.1 hlength
      exact .undecorate buffer start stop
  | showScope =>
    have hlength : written.length = 3 := Nat.le_antisymm hmost hleast
    obtain ⟨buffer, path, lines, rfl⟩ := List.length_eq_three.1 hlength
    exact .showScope buffer path lines
  | close =>
    have hlength : written.length = 1 := Nat.le_antisymm hmost hleast
    obtain ⟨buffer, rfl⟩ := List.length_eq_one_iff.1 hlength
    exact .close buffer

theorem ofName?_eq_some_iff {name : String} {m : Method} :
    ofName? name = some m ↔ m.name = name := by
  constructor
  · intro h
    simpa using List.find?_some h
  · rintro rfl
    cases m <;> rfl

theorem name_inj {m m' : Method} : m.name = m'.name ↔ m = m' := by
  cases m <;> cases m' <;> decide

end Method

namespace Request

def method : Request → Method
  | .highlight .. => .highlight
  | .undecorate .. => .undecorate
  | .showScope .. => .showScope
  | .close _ => .close

/-- There is a path and there are lines, where the method has them. -/
def Stated : Request → Prop
  | .highlight _ path lines _ _ | .showScope _ path lines => path.text ≠ "" ∧ lines ≠ []
  | .undecorate .. | .close _ => True

def arguments : Request → List Json
  | .highlight buffer path lines stop refresh =>
    [.number (.natural buffer), .string path.text, .array (lines.map .string),
      .number (.natural stop), .bool refresh]
  | .undecorate buffer ⟨first, none⟩ => [.number (.natural buffer), .number (.natural first)]
  | .undecorate buffer ⟨first, some last⟩ =>
    [.number (.natural buffer), .number (.natural first), .number (.natural last)]
  | .showScope buffer path lines =>
    [.number (.natural buffer), .string path.text, .array (lines.map .string)]
  | .close buffer => [.number (.natural buffer)]

def Spells (r : Request) (written : List Json) : Prop :=
  match r with
  | .highlight buffer path lines stop refresh =>
    ∃ flag, Argument.Flag refresh flag ∧
      written = [.number (.natural buffer), .string path.text, .array (lines.map .string),
        .number (.natural stop), flag]
  | r => written = r.arguments

theorem ofArguments_eq_ok_iff {m : Method} {written : List Json} {r : Request} :
    ofArguments m written = .ok r ↔ r.method = m ∧ r.Stated ∧ r.Spells written := by
  constructor
  · intro h
    unfold ofArguments at h
    split at h
    case h_6 => cases h
    all_goals
      simp only [bind_eq_ok_iff, read_eq_ok_iff, Json.natural?_eq_some_iff,
        Argument.path?_eq_some_iff, Argument.lines?_eq_some_iff, Argument.flag?_eq_some_iff] at h
    case h_1 =>
      obtain ⟨b, rfl, p, ⟨rfl, hp⟩, l, ⟨rfl, hl⟩, s, rfl, v, hv, ⟨⟩⟩ := h
      exact ⟨rfl, ⟨hp, hl⟩, _, hv, rfl⟩
    case h_2 =>
      obtain ⟨first, rfl, b, rfl, ⟨⟩⟩ := h
      exact ⟨rfl, trivial, rfl⟩
    case h_3 =>
      obtain ⟨first, rfl, last, rfl, b, rfl, ⟨⟩⟩ := h
      exact ⟨rfl, trivial, rfl⟩
    case h_4 =>
      obtain ⟨b, rfl, p, ⟨rfl, hp⟩, l, ⟨rfl, hl⟩, ⟨⟩⟩ := h
      exact ⟨rfl, ⟨hp, hl⟩, rfl⟩
    case h_5 =>
      obtain ⟨b, rfl, ⟨⟩⟩ := h
      exact ⟨rfl, trivial, rfl⟩
  · rintro ⟨rfl, hstated, hspells⟩
    cases r with
    | highlight buffer path lines stop refresh =>
      obtain ⟨flag, hflag, rfl⟩ := hspells
      have hpath := Argument.path?_eq_some_iff.2 ⟨rfl, hstated.1⟩
      have hlines := Argument.lines?_eq_some_iff.2 ⟨rfl, hstated.2⟩
      have hflag := Argument.flag?_eq_some_iff.2 hflag
      simp only [method, ofArguments, read, Json.natural?, hpath, hlines, hflag]
      rfl
    | undecorate buffer range =>
      obtain ⟨first, last⟩ := range
      cases last <;> obtain rfl := hspells <;> rfl
    | showScope buffer path lines =>
      obtain rfl := hspells
      have hpath := Argument.path?_eq_some_iff.2 ⟨rfl, hstated.1⟩
      have hlines := Argument.lines?_eq_some_iff.2 ⟨rfl, hstated.2⟩
      simp only [method, arguments, ofArguments, read, Json.natural?, hpath, hlines]
      rfl
    | close buffer =>
      obtain rfl := hspells
      rfl

theorem ofCall_eq_ok_iff {name : String} {written : List Json} {r : Request} :
    ofCall name written = .ok r ↔ r.method.name = name ∧ r.Stated ∧ r.Spells written := by
  unfold ofCall
  cases hm : Method.ofName? name with
  | none =>
    have hno : r.method.name ≠ name := fun h => by
      rw [Method.ofName?_eq_some_iff.2 h] at hm
      cases hm
    simp [hno]
  | some m =>
    obtain rfl := Method.ofName?_eq_some_iff.1 hm
    rw [ofArguments_eq_ok_iff, Method.name_inj]

theorem Spells.takes {r : Request} {written : List Json} (h : r.Spells written) :
    r.method.Takes written.length := by
  cases r with
  | highlight buffer path lines stop refresh =>
    obtain ⟨flag, -, rfl⟩ := h
    simp [method, Method.Takes, Method.arity]
  | undecorate buffer range =>
    obtain ⟨first, last⟩ := range
    cases last <;> obtain rfl := h <;> simp [method, arguments, Method.Takes, Method.arity]
  | showScope buffer path lines =>
    obtain rfl := h
    simp [method, arguments, Method.Takes, Method.arity]
  | close buffer =>
    obtain rfl := h
    simp [method, arguments, Method.Takes, Method.arity]

theorem Spells.admits {r : Request} {written : List Json} (h : r.Spells written) (hr : r.Stated)
    (hfits : ∀ n, .number n ∈ written → n.Fits) :
    ∀ p ∈ r.method.arguments.zip written, p.1.Admits p.2 := by
  have hnumber : ∀ n, Json.number (.natural n) ∈ written →
      ∃ k ≤ Words.largest, Json.number (.natural n) = .number (.natural k) :=
    fun n hn => ⟨n, hfits (.natural n) hn, rfl⟩
  cases r with
  | highlight buffer path lines stop refresh =>
    obtain ⟨flag, hflag, rfl⟩ := h
    have hbuffer := hnumber buffer (by simp)
    have hstop := hnumber stop (by simp)
    simp only [method, Method.arguments, List.zip_cons_cons, List.forall_mem_cons]
    exact ⟨hbuffer, ⟨_, hr.1, rfl⟩, ⟨_, hr.2, rfl⟩, hstop, ⟨_, hflag⟩, by simp⟩
  | undecorate buffer range =>
    obtain ⟨first, last⟩ := range
    cases last with
    | none =>
      obtain rfl := h
      have hbuffer := hnumber buffer (by simp [arguments])
      have hfirst := hnumber first (by simp [arguments])
      simp only [method, arguments, Method.arguments, List.zip_cons_cons, List.forall_mem_cons]
      exact ⟨hbuffer, hfirst, by simp⟩
    | some last =>
      obtain rfl := h
      have hbuffer := hnumber buffer (by simp [arguments])
      have hfirst := hnumber first (by simp [arguments])
      have hlast := hnumber last (by simp [arguments])
      simp only [method, arguments, Method.arguments, List.zip_cons_cons, List.forall_mem_cons]
      exact ⟨hbuffer, hfirst, hlast, by simp⟩
  | showScope buffer path lines =>
    obtain rfl := h
    have hbuffer := hnumber buffer (by simp [arguments])
    simp only [method, arguments, Method.arguments, List.zip_cons_cons, List.forall_mem_cons]
    exact ⟨hbuffer, ⟨_, hr.1, rfl⟩, ⟨_, hr.2, rfl⟩, by simp⟩
  | close buffer =>
    obtain rfl := h
    have hbuffer := hnumber buffer (by simp [arguments])
    simp only [method, arguments, Method.arguments, List.zip_cons_cons, List.forall_mem_cons]
    exact ⟨hbuffer, by simp⟩

theorem exists_spells {m : Method} {written : List Json} (hcount : m.Takes written.length)
    (hadmits : ∀ p ∈ m.arguments.zip written, p.1.Admits p.2) :
    ∃ r : Request, r.method = m ∧ r.Stated ∧ r.Spells written := by
  have hgiven := hcount.given
  cases hgiven <;>
    simp only [Method.arguments, List.zip_cons_cons, List.forall_mem_cons] at hadmits
  case highlight buffer path lines stop flag =>
    obtain ⟨⟨b, -, rfl⟩, ⟨p, hp, rfl⟩, ⟨l, hl, rfl⟩, ⟨s, -, rfl⟩, ⟨v, hv⟩, -⟩ := hadmits
    exact ⟨.highlight b ⟨p⟩ l s v, rfl, ⟨hp, hl⟩, flag, hv, rfl⟩
  case undecorateFrom buffer start =>
    obtain ⟨⟨b, -, rfl⟩, ⟨first, -, rfl⟩, -⟩ := hadmits
    exact ⟨.undecorate b ⟨first, none⟩, rfl, trivial, rfl⟩
  case undecorate buffer start stop =>
    obtain ⟨⟨b, -, rfl⟩, ⟨first, -, rfl⟩, ⟨last, -, rfl⟩, -⟩ := hadmits
    exact ⟨.undecorate b ⟨first, some last⟩, rfl, trivial, rfl⟩
  case showScope buffer path lines =>
    obtain ⟨⟨b, -, rfl⟩, ⟨p, hp, rfl⟩, ⟨l, hl, rfl⟩, -⟩ := hadmits
    exact ⟨.showScope b ⟨p⟩ l, rfl, ⟨hp, hl⟩, rfl⟩
  case close buffer =>
    obtain ⟨⟨b, -, rfl⟩, -⟩ := hadmits
    exact ⟨.close b, rfl, trivial, rfl⟩

/-- What is wrong with a call. -/
inductive Amiss (name : String) (written : List Json) : RequestFault → Prop
  | method : (∀ m : Method, m.name ≠ name) → Amiss name written (.unknownMethod name)
  | count {m : Method} : m.name = name → ¬ m.Takes written.length →
      Amiss name written (.arity m written.length)
  | argument {m : Method} {argument : Argument} {json : Json} : m.name = name →
      m.Takes written.length → (argument, json) ∈ m.arguments.zip written →
      ¬ argument.Admits json → Amiss name written (.invalidArgument m argument)

def FailsWith {α : Type} (P : RequestFault → Prop) (x : Except RequestFault α) : Prop :=
  ∀ fault, x = .error fault → P fault

theorem FailsWith.pure {α : Type} {P : RequestFault → Prop} (a : α) :
    FailsWith P (Pure.pure a) := by
  intro fault h
  cases h

theorem FailsWith.bind {α β : Type} {P : RequestFault → Prop} {x : Except RequestFault α}
    {f : α → Except RequestFault β} (hx : FailsWith P x) (hf : ∀ a, FailsWith P (f a)) :
    FailsWith P (x >>= f) := by
  intro fault h
  cases x with
  | error _ =>
    obtain ⟨⟩ := h
    exact hx fault rfl
  | ok a => exact hf a fault h

theorem FailsWith.read {α : Type} {m : Method} {written : List Json} {argument : Argument}
    {read? : Json → Option α} {json : Json} (hm : m.Takes written.length)
    (hread : argument.Admits json → read? json ≠ none)
    (hgiven : (argument, json) ∈ m.arguments.zip written) :
    FailsWith (Amiss m.name written) (Request.read m argument read? json) := by
  intro fault h
  unfold Request.read at h
  cases hjson : read? json with
  | some a => simp [hjson] at h
  | none =>
    simp only [hjson] at h
    obtain ⟨⟩ := h
    exact .argument rfl hm hgiven fun hadmits => hread hadmits hjson

theorem amiss_of_ofArguments (m : Method) (written : List Json) :
    FailsWith (Amiss m.name written) (ofArguments m written) := by
  unfold ofArguments
  split
  case h_1 buffer path lines stop refresh =>
    have hm : Method.highlight.Takes 5 := by simp [Method.Takes, Method.arity]
    refine .bind (.read hm Argument.natural?_ne_none ?_) fun b =>
      .bind (.read hm Argument.path?_ne_none ?_) fun p =>
      .bind (.read hm Argument.lines?_ne_none ?_) fun l =>
      .bind (.read hm Argument.natural?_ne_none ?_) fun s =>
      .bind (.read hm Argument.flag?_ne_none ?_) fun v => .pure _
    all_goals simp [Method.arguments]
  case h_2 buffer start =>
    have hm : Method.undecorate.Takes 2 := by simp [Method.Takes, Method.arity]
    refine .bind (.read hm Argument.natural?_ne_none ?_) fun first =>
      .bind (.read hm Argument.natural?_ne_none ?_) fun b => .pure _
    all_goals simp [Method.arguments]
  case h_3 buffer start stop =>
    have hm : Method.undecorate.Takes 3 := by simp [Method.Takes, Method.arity]
    refine .bind (.read hm Argument.natural?_ne_none ?_) fun first =>
      .bind (.read hm Argument.natural?_ne_none ?_) fun last =>
      .bind (.read hm Argument.natural?_ne_none ?_) fun b => .pure _
    all_goals simp [Method.arguments]
  case h_4 buffer path lines =>
    have hm : Method.showScope.Takes 3 := by simp [Method.Takes, Method.arity]
    refine .bind (.read hm Argument.natural?_ne_none ?_) fun b =>
      .bind (.read hm Argument.path?_ne_none ?_) fun p =>
      .bind (.read hm Argument.lines?_ne_none ?_) fun l => .pure _
    all_goals simp [Method.arguments]
  case h_5 buffer =>
    have hm : Method.close.Takes 1 := by simp [Method.Takes, Method.arity]
    refine .bind (.read hm Argument.natural?_ne_none ?_) fun b => .pure _
    simp [Method.arguments]
  case h_6 hhighlight hfrom hbetween hscope hclose =>
    rintro fault ⟨⟩
    refine .count rfl fun hcount => ?_
    have hgiven := hcount.given
    cases hgiven with
    | highlight buffer path lines stop refresh =>
      exact hhighlight buffer path lines stop refresh rfl rfl
    | undecorateFrom buffer start => exact hfrom buffer start rfl rfl
    | undecorate buffer start stop => exact hbetween buffer start stop rfl rfl
    | showScope buffer path lines => exact hscope buffer path lines rfl rfl
    | close buffer => exact hclose buffer rfl rfl

theorem amiss_of_ofCall {name : String} {written : List Json} {fault : RequestFault}
    (h : ofCall name written = .error fault) : Amiss name written fault := by
  unfold ofCall at h
  cases hm : Method.ofName? name with
  | none =>
    simp only [hm] at h
    obtain ⟨⟩ := h
    refine .method fun m hname => ?_
    rw [Method.ofName?_eq_some_iff.2 hname] at hm
    cases hm
  | some m =>
    simp only [hm] at h
    obtain rfl := Method.ofName?_eq_some_iff.1 hm
    exact amiss_of_ofArguments m written fault h

theorem spells_arguments (r : Request) : r.Spells r.arguments := by
  cases r with
  | highlight buffer path lines stop refresh => exact ⟨_, .inl rfl, rfl⟩
  | undecorate buffer range => rfl
  | showScope buffer path lines => rfl
  | close buffer => rfl

theorem Spells.eq_or_flag {r : Request} {a b : List Json} (ha : r.Spells a) (hb : r.Spells b) :
    a = b ∨ ∃ front value x y, r.method = .highlight ∧ front.length = 4 ∧ a = front ++ [x] ∧
      b = front ++ [y] ∧ Argument.Flag value x ∧ Argument.Flag value y := by
  cases r with
  | highlight buffer path lines stop refresh =>
    obtain ⟨x, hx, rfl⟩ := ha
    obtain ⟨y, hy, rfl⟩ := hb
    exact .inr ⟨[_, _, _, _], refresh, x, y, rfl, rfl, rfl, rfl, hx, hy⟩
  | undecorate buffer range => exact .inl (Eq.trans ha hb.symm)
  | showScope buffer path lines => exact .inl (Eq.trans ha hb.symm)
  | close buffer => exact .inl (Eq.trans ha hb.symm)

/-- A number is read as a natural one if and only if it is written as an integer without a sign that
64 bits hold, and no number that is read takes more. A call of such numbers is a request if and only
if its method is known, takes as many arguments, and each of them has its form. What a request is
written as is read as that request. Two calls that are the same request differ at most in how its
flag is written. A call that is refused has the method, the number of arguments or the argument that
the fault names, and it is amiss. -/
theorem requests_read :
    (∀ (numeral : Numeral) worth, Words.digits? numeral.whole = some worth → ∀ n,
      (numeral.value? = some (.natural n) ↔ n = worth ∧ worth ≤ Words.largest ∧
        numeral.negative = false ∧ numeral.fraction = none ∧ numeral.exponent = none)) ∧
    (∀ (numeral : Numeral) n, numeral.value? = some n → n.Fits) ∧
    (∀ name written, (∀ n, .number n ∈ written → n.Fits) →
      ((∃ r, ofCall name written = .ok r) ↔ ∃ m : Method, m.name = name ∧
        m.Takes written.length ∧ ∀ p ∈ m.arguments.zip written, p.1.Admits p.2)) ∧
    (∀ r : Request, r.Stated → ofCall r.method.name r.arguments = .ok r) ∧
    (∀ name a b r, ofCall name a = .ok r → ofCall name b = .ok r →
      a = b ∨ ∃ front value x y, name = Method.highlight.name ∧ front.length = 4 ∧
        a = front ++ [x] ∧ b = front ++ [y] ∧ Argument.Flag value x ∧ Argument.Flag value y) ∧
    ∀ name written fault, ofCall name written = .error fault → Amiss name written fault := by
  refine ⟨fun numeral worth h n => Numeral.value?_eq_natural_iff h n,
    fun numeral n h => Numeral.value?_fits h, fun name written hfits => ?_, fun r hr => ?_,
    fun name a b r ha hb => ?_, fun name written fault h => amiss_of_ofCall h⟩
  · constructor
    · rintro ⟨r, hr⟩
      obtain ⟨hname, hstated, hspells⟩ := ofCall_eq_ok_iff.1 hr
      exact ⟨r.method, hname, hspells.takes, hspells.admits hstated hfits⟩
    · rintro ⟨m, rfl, hcount, hadmits⟩
      obtain ⟨r, rfl, hstated, hspells⟩ := exists_spells hcount hadmits
      exact ⟨r, ofCall_eq_ok_iff.2 ⟨rfl, hstated, hspells⟩⟩
  · exact ofCall_eq_ok_iff.2 ⟨rfl, hr, spells_arguments r⟩
  · obtain ⟨rfl, -, ha⟩ := ofCall_eq_ok_iff.1 ha
    obtain ⟨-, -, hb⟩ := ofCall_eq_ok_iff.1 hb
    obtain heq | ⟨front, value, x, y, hm, hrest⟩ := ha.eq_or_flag hb
    · exact .inl heq
    · exact .inr ⟨front, value, x, y, congrArg Method.name hm, hrest⟩

theorem requests_read_flag :
    let written : List Json := [.number (.natural 3), .string "a.t", .array [.string "k"],
      .number (.natural 12), .number (.natural 1)]
    let request : Request := .highlight 3 ⟨"a.t"⟩ ["k"] 12 true
    (Words.digits? ['1', '2'] = some 12 ∧
      Numeral.value? ⟨false, ['1', '2'], none, none⟩ = some (.natural 12)) ∧
    ((∀ n, .number n ∈ written → n.Fits) ∧ ∃ r, ofCall "highlight" written = .ok r) ∧
    (request.Stated ∧ ofCall "highlight" request.arguments = .ok request) ∧
    (ofCall "highlight" written = .ok request ∧ ∃ front value x y, front.length = 4 ∧
      written = front ++ [x] ∧ request.arguments = front ++ [y] ∧
        Argument.Flag value x ∧ Argument.Flag value y) ∧
    ofCall "close" [.null] = .error (.invalidArgument .close .buffer) ∧
      Amiss "close" [.null] (.invalidArgument .close .buffer) := by
  intro written request
  obtain ⟨hnatural, -, haccepts, hrequest, hsame, hrefused⟩ := requests_read
  have hdigits : Words.digits? ['1', '2'] = some 12 := by decide
  have hfits : ∀ n, .number n ∈ written → n.Fits := by
    intro n hn
    obtain rfl | rfl | rfl : n = .natural 3 ∨ n = .natural 12 ∨ n = .natural 1 := by
      simpa [written] using hn
    all_goals simp [Number.Fits, Words.largest]
  have hadmits : ∀ p ∈ Method.highlight.arguments.zip written, p.1.Admits p.2 := by
    simp only [written, Method.arguments, List.zip_cons_cons, List.forall_mem_cons]
    exact ⟨⟨3, by decide, rfl⟩, ⟨"a.t", by decide, rfl⟩, ⟨["k"], by decide, rfl⟩,
      ⟨12, by decide, rfl⟩, ⟨true, .inr rfl⟩, by simp⟩
  have hstated : request.Stated := ⟨by decide, by decide⟩
  have hcount : Method.highlight.Takes written.length := ⟨by decide, by decide⟩
  have hread : ofCall "highlight" written = .ok request := rfl
  have hspelled := hrequest request hstated
  refine ⟨⟨hdigits, (hnatural ⟨false, ['1', '2'], none, none⟩ 12 hdigits 12).2
      ⟨rfl, by decide, rfl, rfl, rfl⟩⟩,
    ⟨hfits, (haccepts "highlight" written hfits).2 ⟨.highlight, rfl, hcount, hadmits⟩⟩,
    ⟨hstated, hspelled⟩, ⟨hread, ?_⟩, rfl, hrefused "close" [.null] _ rfl⟩
  obtain heq | ⟨front, value, x, y, -, hrest⟩ := hsame "highlight" _ _ request hread hspelled
  · simp [written, request, arguments] at heq
  · exact ⟨front, value, x, y, hrest⟩

end Request

end Highlighting
