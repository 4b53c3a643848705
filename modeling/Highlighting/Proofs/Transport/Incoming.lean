import Highlighting.Transport
import Mathlib.Data.List.Basic

/-! Which lines are calls, and what they ask for. -/
namespace Highlighting.Incoming

/-- What a document gives for `id`, `method` and `params`: an object by its keys, of which none of
the three is repeated, and an array by place. -/
inductive Gives : Json → Option Json → Json → Option Json → Prop
  | object {entries : List (String × Json)} {id : Option Json} {method : Json}
      {params : Option Json} (hid : (entries.filter (·.1 = "id")).map Prod.snd = id.toList)
      (hmethod : (entries.filter (·.1 = "method")).map Prod.snd = [method])
      (hparams : (entries.filter (·.1 = "params")).map Prod.snd = params.toList) :
      Gives (.object entries) id method params
  | two (id method : Json) : Gives (.array [id, method]) (some id) method none
  | three (id method params : Json) :
      Gives (.array [id, method, params]) (some id) method (some params)

/-- What the reply is to carry. -/
inductive Wants : Option Json → Option Json → Prop
  | absent : Wants none none
  | null : Wants (some .null) none
  | value {written id : Json} (hnull : written ≠ .null) (h : written.value? depthLimit = some id) :
      Wants (some written) (some id)

inductive Passes : Option Json → List Json → Prop
  | absent : Passes none []
  | array {written : Json} {items : List Json}
      (h : written.value? depthLimit = some (.array items)) :
      Passes (some written) items

/-- The line is a call. -/
inductive Spells (line : List Char) : Incoming → Prop
  | intro {json : Json} {id params wanted : Option Json} {method : String}
      {arguments : List Json} (read : Json.read? line = some json)
      (gives : Gives json id (.string method) params) (wants : Wants id wanted)
      (passes : Passes params arguments) : Spells line ⟨wanted, method, arguments⟩

section Object
variable {entries done out : List (String × Json)}

/-- One more entry of an object: it counts if it has one of the three keys for the first time. -/
def gather (done : List (String × Json)) (entry : String × Json) : Option (List (String × Json)) :=
  if !fieldNames.contains entry.1 then some done
  else if (done.lookup entry.1).isSome then none
  else some (done ++ [entry])

theorem lookup_gathered (h : entries.foldlM gather done = some out) {name : String}
    (hname : name ∈ fieldNames) :
    (out.lookup name).toList =
      (done.lookup name).toList ++ (entries.filter (·.1 = name)).map Prod.snd := by
  induction entries generalizing done with
  | nil =>
    cases h
    simp
  | cons entry entries ih =>
    obtain ⟨key, value⟩ := entry
    obtain ⟨next, hnext, hrest⟩ := Option.bind_eq_some_iff.1 h
    rw [ih hrest]
    unfold gather at hnext
    split at hnext
    · next hother =>
      cases hnext
      have hne : key ≠ name := by
        rintro rfl
        simp [hname] at hother
      simp [hne]
    split at hnext
    · cases hnext
    · next hfresh =>
      cases hnext
      rw [Bool.not_eq_true, Option.isSome_eq_false_iff, Option.isNone_iff_eq_none] at hfresh
      by_cases hsame : key = name
      · subst hsame
        simp [List.lookup_append, hfresh]
      · have hother : (name == key) = false := by simp [Ne.symm hsame]
        simp [List.lookup_append, List.lookup_cons, hsame, hother]

theorem gathered_of_single
    (h : ∀ name ∈ fieldNames,
      ((done.lookup name).toList ++ (entries.filter (·.1 = name)).map Prod.snd).length ≤ 1) :
    ∃ out, entries.foldlM gather done = some out := by
  induction entries generalizing done with
  | nil => exact ⟨done, rfl⟩
  | cons entry entries ih =>
    have hstep : ∃ next, gather done entry = some next := by
      unfold gather
      split
      · exact ⟨_, rfl⟩
      split
      · next hknown hrepeated =>
        have hmem : entry.1 ∈ fieldNames := by simpa using hknown
        obtain ⟨value, hvalue⟩ := Option.isSome_iff_exists.1 hrepeated
        have hone := h _ hmem
        simp [hvalue] at hone
      · exact ⟨_, rfl⟩
    obtain ⟨next, hnext⟩ := hstep
    have hgathered : [entry].foldlM gather done = some next := by simp [hnext]
    have hsingle : ∀ name ∈ fieldNames,
        ((next.lookup name).toList ++ (entries.filter (·.1 = name)).map Prod.snd).length ≤ 1 := by
      intro name hname
      rw [lookup_gathered hgathered hname, List.append_assoc, ← List.map_append,
        ← List.filter_append]
      exact h name hname
    obtain ⟨out, hout⟩ := ih hsingle
    exact ⟨out, by simp [hnext, hout]⟩

end Object

theorem eq_of_toList {α : Type} {a b : Option α} (h : a.toList = b.toList) : a = b :=
  Option.ext fun x => by rw [← Option.mem_toList, h, Option.mem_toList]

/-- The fields of a record are found exactly where a document gives them. -/
theorem fields?_iff {json : Json} {id params : Option Json} {method : Json} :
    (∃ fields, fields? json = some fields ∧ fields.lookup "id" = id ∧
      fields.lookup "method" = some method ∧ fields.lookup "params" = params) ↔
      Gives json id method params := by
  have hid : "id" ∈ fieldNames := by simp [fieldNames]
  have hmethod : "method" ∈ fieldNames := by simp [fieldNames]
  have hparams : "params" ∈ fieldNames := by simp [fieldNames]
  constructor
  · rintro ⟨fields, hfields, rfl, hm, rfl⟩
    cases json with
    | object entries =>
      have hgathered : entries.foldlM gather [] = some fields := hfields
      refine .object ?_ ?_ ?_
      · simpa using (lookup_gathered hgathered hid).symm
      · simpa [hm] using (lookup_gathered hgathered hmethod).symm
      · simpa using (lookup_gathered hgathered hparams).symm
    | array items =>
      match items with
      | [] | [_] | _ :: _ :: _ :: _ :: _ => simp [fields?] at hfields
      | [id, method'] =>
        obtain rfl : [("id", id), ("method", method')] = fields := Option.some.inj hfields
        obtain rfl : method' = method := Option.some.inj hm
        exact .two id method'
      | [id, method', params] =>
        obtain rfl : [("id", id), ("method", method'), ("params", params)] = fields :=
          Option.some.inj hfields
        obtain rfl : method' = method := Option.some.inj hm
        exact .three id method' params
    | null | bool | number | string | unusable => cases hfields
  · intro h
    cases h with
    | @object entries id method params hi hm hp =>
      have hsingle : ∀ name ∈ fieldNames, ((([] : List (String × Json)).lookup name).toList ++
          (entries.filter (·.1 = name)).map Prod.snd).length ≤ 1 := by
        intro name hname
        simp only [fieldNames, List.mem_cons, List.not_mem_nil, or_false] at hname
        obtain rfl | rfl | rfl := hname
        · rw [hi]
          cases id <;> simp
        · rw [hm]
          simp
        · rw [hp]
          cases params <;> simp
      obtain ⟨fields, hfields⟩ := gathered_of_single hsingle
      refine ⟨fields, hfields, eq_of_toList ?_, eq_of_toList ?_, eq_of_toList ?_⟩
      · simpa [hi] using lookup_gathered hfields hid
      · simpa [hm] using lookup_gathered hfields hmethod
      · simpa [hp] using lookup_gathered hfields hparams
    | two => exact ⟨_, rfl, rfl, rfl, rfl⟩
    | three => exact ⟨_, rfl, rfl, rfl, rfl⟩

def wanted? : Option Json → Option (Option Json)
  | none | some .null => some none
  | some json => some <$> json.value? depthLimit

def passed? : Option Json → Option (List Json)
  | none => some []
  | some json => (json.value? depthLimit).bind Json.items?

theorem ofJson?_eq (json : Json) :
    ofJson? json = (fields? json).bind fun fields =>
      (wanted? (fields.lookup "id")).bind fun id =>
        (fields.lookup "method").bind fun written =>
          written.string?.bind fun method =>
            (passed? (fields.lookup "params")).bind fun arguments =>
              some ⟨id, method, arguments⟩ := by
  refine congrArg (Option.bind (fields? json)) (funext fun fields => ?_)
  -- the reader goes on in the same way whatever it has for the reply
  have hrest : ∀ id, ((fields.lookup "method").bind fun written =>
      written.string?.bind fun method =>
      match fields.lookup "params" with
      | none => some (Incoming.mk id method [])
      | some json => (json.value? depthLimit).bind fun value =>
        value.items?.bind fun arguments => some ⟨id, method, arguments⟩) =
      (fields.lookup "method").bind fun written => written.string?.bind fun method =>
        (passed? (fields.lookup "params")).bind fun arguments => some ⟨id, method, arguments⟩ := by
    intro id
    cases fields.lookup "params" with
    | none => rfl
    | some json => simp only [passed?, Option.bind_assoc]
  cases fields.lookup "id" with
  | none => exact hrest none
  | some json =>
    cases json with
    | null => exact hrest none
    | bool | number | string | array | object | unusable =>
      exact congrArg (Option.bind _) (funext hrest)

theorem wanted?_iff {written wanted : Option Json} :
    wanted? written = some wanted ↔ Wants written wanted := by
  constructor
  · intro h
    unfold wanted? at h
    split at h
    · cases h
      exact .absent
    · cases h
      exact .null
    · next hnull =>
      obtain ⟨id, hid, rfl⟩ := Option.map_eq_some_iff.1 h
      exact .value hnull hid
  · intro h
    cases h with
    | absent | null => rfl
    | value hnull h =>
      rw [wanted?, h]
      · rfl
      · exact hnull

theorem passed?_iff {written : Option Json} {arguments : List Json} :
    passed? written = some arguments ↔ Passes written arguments := by
  constructor
  · intro h
    cases written with
    | none =>
      cases h
      exact .absent
    | some json =>
      obtain ⟨value, hvalue, hitems⟩ := Option.bind_eq_some_iff.1 h
      cases value with
      | array items =>
        cases hitems
        exact .array hvalue
      | null | bool | number | string | object | unusable => cases hitems
  · intro h
    cases h with
    | absent => rfl
    | array h =>
      rw [passed?, h]
      rfl

theorem string?_eq_some_iff {json : Json} {s : String} :
    json.string? = some s ↔ json = .string s := by
  cases json <;> simp [Json.string?]

theorem read?_eq_some_iff {line : List Char} {i : Incoming} :
    read? line = some i ↔ Spells line i := by
  have hread : read? line = (Json.read? line).bind ofJson? := rfl
  simp only [hread, ofJson?_eq, Option.bind_eq_some_iff, wanted?_iff, passed?_iff,
    string?_eq_some_iff, Option.some.injEq]
  constructor
  · rintro ⟨json, hjson, fields, hfields, id, hid, _, hmethod, method, rfl, arguments,
      harguments, rfl⟩
    exact .intro hjson (fields?_iff.1 ⟨fields, hfields, rfl, hmethod, rfl⟩) hid harguments
  · rintro ⟨hjson, hgives, hid, harguments⟩
    obtain ⟨fields, hfields, rfl, hmethod, rfl⟩ := fields?_iff.2 hgives
    exact ⟨_, hjson, fields, hfields, _, hid, _, hmethod, _, rfl, _, harguments, rfl⟩

end Highlighting.Incoming
