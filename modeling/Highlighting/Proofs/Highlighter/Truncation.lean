import Highlighting.Proofs.Highlighter.Ending

/-! Hosts that take some more calls and then none. -/
namespace Highlighting

namespace Host

theorem length_accepted (host : Host) :
    host.accepted.length = (host.attempts.filter fun a => a.refusal.isNone).length :=
  List.length_map _

/-- The host takes so many more calls, and refuses all others. -/
def Takes (host : Host) (room : Nat) : Prop :=
  ∀ attempts call, host.refuse attempts call = none ↔
    (attempts.filter fun a => a.refusal.isNone).length < host.accepted.length + room

variable {host : Host}

theorem Takes.make_succ {room : Nat} (h : host.Takes (room + 1)) (call : HostCall) :
    ∃ host', host.make call = (none, host') ∧ host'.accepted = host.accepted ++ [call] ∧
      host'.Takes room := by
  have htaken : host.refuse host.attempts call = none := by
    rw [h, length_accepted]
    omega
  have haccepted : (host.make call).2.accepted = host.accepted ++ [call] := by
    simp [make, accepted, htaken]
  refine ⟨(host.make call).2, by simp [make, htaken], haccepted, fun attempts call' => ?_⟩
  have hrefuse := h attempts call'
  rw [haccepted, List.length_append, List.length_singleton]
  rw [show host.accepted.length + 1 + room = host.accepted.length + (room + 1) by omega]
  exact hrefuse

theorem Takes.make_zero (h : host.Takes 0) (call : HostCall) :
    ∃ reason host', host.make call = (some reason, host') ∧ host'.accepted = host.accepted ∧
      host'.Takes 0 := by
  have hrefused : host.refuse host.attempts call ≠ none := by
    rw [Ne, h, length_accepted]
    omega
  obtain ⟨reason, hreason⟩ := Option.ne_none_iff_exists'.1 hrefused
  have haccepted : (host.make call).2.accepted = host.accepted := by
    simp [make, accepted, hreason]
  refine ⟨reason, (host.make call).2, by simp [make, hreason], haccepted, fun attempts call' => ?_⟩
  rw [haccepted]
  exact h attempts call'

theorem Takes.make {room : Nat} (h : host.Takes room) (call : HostCall) :
    ∃ refusal host', host.make call = (refusal, host') ∧
      host'.accepted = host.accepted ++ [call].take room ∧ (0 < room → refusal = none) := by
  cases room with
  | zero =>
    obtain ⟨reason, host', hmake, haccepted, -⟩ := h.make_zero call
    exact ⟨some reason, host', hmake, by simpa using haccepted, by simp⟩
  | succ room =>
    obtain ⟨host', hmake, haccepted, -⟩ := h.make_succ call
    exact ⟨none, host', hmake, by simpa using haccepted, by simp⟩

end Host

theorem MarkStore.callAll_takes {host : Host} {room : Nat} (h : host.Takes room) (s : MarkStore)
    (calls : List HostCall) :
    ∃ refusal store host', s.callAll host calls = (refusal, store, host') ∧
      host'.accepted = host.accepted ++ calls.take room ∧ host'.Takes (room - calls.length) ∧
      (calls.length ≤ room → refusal = none ∧ store = calls.foldl apply s) ∧
      (room < calls.length → refusal.isSome = true) := by
  induction calls generalizing s host room with
  | nil => exact ⟨none, s, host, rfl, by simp, by simpa using h, by simp, by simp⟩
  | cons call calls ih =>
    cases room with
    | zero =>
      obtain ⟨reason, host', hmake, haccepted, htakes⟩ := h.make_zero call
      refine ⟨some reason, s, host', by simp [callAll, hmake], by simpa using haccepted,
        by simpa using htakes, by simp, by simp⟩
    | succ room =>
      obtain ⟨host₁, hmake, haccepted, htakes⟩ := h.make_succ call
      obtain ⟨refusal, store, host', hcalls, haccepted', htakes', hall, hsome⟩ :=
        ih htakes (s.apply call)
      refine ⟨refusal, store, host', by simp [callAll, hmake, hcalls],
        by simp [haccepted', haccepted], by simpa using htakes', ?_, ?_⟩
      · intro hroom
        exact hall (by simpa using hroom)
      · intro hroom
        exact hsome (by simpa using hroom)

theorem MarkStore.callAll_willing (s : MarkStore) (calls : List HostCall) :
    ∃ host', s.callAll .willing calls = (none, calls.foldl apply s, host') ∧
      host'.accepted = calls := by
  obtain hall | ⟨-, -, -, -, -, hunwilling, -⟩ := s.callAll_cases .willing calls
  · refine ⟨_, hall, ?_⟩
    simp [Host.accepted, Host.willing, List.filter_map, Function.comp_def]
  · exact absurd Host.willing_willing hunwilling

namespace Highlighter

/-- What a request comes to with a host that takes only some calls, beside a willing one. -/
structure Cut (room : Nat) (full cut : Outcome × Highlighter × Host) : Prop where
  accepted : cut.2.2.accepted = full.2.2.accepted.take room
  same : full.2.2.accepted.length ≤ room → cut.1 = full.1 ∧ cut.2.1 = full.2.1

variable {host : Host} {room : Nat}

theorem cut_none (hfresh : host.accepted = []) (outcome : Outcome) (h : Highlighter) :
    Cut room (outcome, h, .willing) (outcome, h, host) where
  accepted := hfresh.trans (by simp [Host.willing, Host.accepted])
  same _ := ⟨rfl, rfl⟩

theorem cut_fail (htakes : host.Takes room) (hfresh : host.accepted = []) (h : Highlighter)
    (failure : Failure) : Cut room (h.fail .willing failure) (h.fail host failure) where
  accepted := by
    obtain ⟨refusal, host', hmake, haccepted, -⟩ := htakes.make .disable
    have hwilling : (h.fail .willing failure).2.2.accepted = [.disable] := rfl
    rw [hwilling, fail, hmake, haccepted, hfresh, List.nil_append]
  same _ := ⟨rfl, rfl⟩

theorem cut_conclude (htakes : host.Takes room) (hfresh : host.accepted = []) (h : Highlighter)
    (outcome : Outcome) (calls : List HostCall) :
    Cut room (h.conclude outcome (h.store.callAll .willing calls))
      (h.conclude outcome (h.store.callAll host calls)) := by
  obtain ⟨host₁, hwilling, hall⟩ := h.store.callAll_willing calls
  obtain ⟨refusal, store, host', hcalls, haccepted, hrest, hfits, hrefused⟩ :=
    MarkStore.callAll_takes htakes h.store calls
  rw [hfresh, List.nil_append] at haccepted
  rw [hwilling, hcalls]
  by_cases hroom : calls.length ≤ room
  · obtain ⟨rfl, rfl⟩ := hfits hroom
    exact ⟨haccepted.trans (by rw [conclude, hall]), fun _ => ⟨rfl, rfl⟩⟩
  · have hfull : room < calls.length := by omega
    obtain ⟨reason, rfl⟩ := Option.isSome_iff_exists.1 (hrefused hfull)
    -- A host that has refused a call has no room for the call that turns highlighting off.
    have hzero : host'.Takes 0 := by
      rwa [show room - calls.length = 0 by omega] at hrest
    obtain ⟨refusal, host'', hmake, hkept, -⟩ := hzero.make .disable
    refine ⟨?_, fun hle => ?_⟩
    · rw [conclude, conclude, fail, hmake, hkept, hall, List.take_zero, List.append_nil, haccepted]
    · rw [conclude, hall] at hle
      omega

theorem cut_present (htakes : host.Takes room) (hfresh : host.accepted = []) (h : Highlighter)
    (read : Except Failure (String × List Token)) :
    Cut room ((present .willing read).1, h, (present .willing read).2)
      ((present host read).1, h, (present host read).2) := by
  cases read with
  | error failure => exact cut_none hfresh _ h
  | ok shown =>
    obtain ⟨scopeName, tokens⟩ := shown
    let call := HostCall.openScratch scratchFileType (Token.listing scopeName tokens)
    obtain ⟨refusal, host', hmake, haccepted, hfits⟩ := htakes.make call
    rw [hfresh, List.nil_append] at haccepted
    simp only [present, call, hmake]
    cases refusal with
    | none => exact ⟨haccepted, fun _ => ⟨rfl, rfl⟩⟩
    | some reason => exact ⟨haccepted, fun hle => by cases hfits hle⟩

theorem cut_renew (htakes : host.Takes room) (hfresh : host.accepted = []) (h : Highlighter)
    (buffer visibleEnd : Nat) (refresh : Bool) (read : Except Failure (String × Parsed)) :
    Cut room (h.renew .willing buffer visibleEnd refresh read)
      (h.renew host buffer visibleEnd refresh read) := by
  cases read with
  | error failure =>
    rw [renew, renew]
    obtain ⟨outcome, hquiet⟩ | hfails := giveUp_cases failure
    · rw [hquiet, hquiet]
      exact cut_none hfresh outcome h
    · rw [hfails, hfails]
      exact cut_fail htakes hfresh h failure
  | ok parsed => exact cut_conclude htakes hfresh h _ _

/-- With a host that takes only some calls a request makes the calls that it makes of a willing one,
as far as they are taken. -/
theorem handle_cut (htakes : host.Takes room) (hfresh : host.accepted = []) (h : Highlighter)
    (files : Files) (request : Request) :
    Cut room (h.handle files .willing request) (h.handle files host request) := by
  cases request with
  | highlight buffer path lines visibleEnd refresh =>
    simp only [handle]
    by_cases hoff : h.disabled = true
    · rw [highlight_of_disabled h _ hoff, highlight_of_disabled h _ hoff]
      exact cut_none hfresh _ h
    · rw [Bool.not_eq_true] at hoff
      by_cases hfound : files.exists? path = true
      · rw [highlight_eq h _ hoff hfound, highlight_eq h _ hoff hfound]
        exact cut_renew htakes hfresh _ buffer visibleEnd refresh _
      · rw [Bool.not_eq_true] at hfound
        rw [highlight_of_missing h _ hoff hfound, highlight_of_missing h _ hoff hfound]
        exact cut_none hfresh _ h
  | undecorate buffer range =>
    simp only [handle, undecorate_eq]
    exact cut_conclude htakes hfresh h _ _
  | showScope buffer path lines =>
    simp only [handle]
    by_cases hfound : files.exists? path = true
    · rw [showScope_eq h _ hfound, showScope_eq h _ hfound]
      exact cut_present htakes hfresh _ _
    · rw [Bool.not_eq_true] at hfound
      rw [showScope_of_missing h _ hfound, showScope_of_missing h _ hfound]
      exact cut_none hfresh _ h
  | close buffer => exact cut_none hfresh _ _

/-- One highlighter has had more of its calls refused than the other, over files that stay as they
are. It can read the same lines, but may be turned off. -/
structure Lags (files : Files) (full cut : Highlighter) : Prop where
  left : full.tokenizer.Coherent
  right : cut.tokenizer.Coherent
  agree : Tokenizer.Agree files (fun _ => False) full.tokenizer cut.tokenizer
  off : full.disabled = true → cut.disabled = true

variable {files : Files} {full cut : Highlighter}

theorem Lags.refl (coherent : full.tokenizer.Coherent) (fits : full.tokenizer.registry.Fits files) :
    Lags files full full :=
  ⟨coherent, coherent, .refl fits, id⟩

theorem Lags.readFails (l : Lags files full cut) {request : Request} {failure : Failure}
    (h : cut.ReadFails files request failure) : full.ReadFails files request failure := by
  cases request with
  | highlight buffer path lines visibleEnd refresh =>
    obtain ⟨hon, hpath, hreads⟩ := h
    refine ⟨?_, hpath, (l.agree.reads_eq hpath lines).trans hreads⟩
    by_contra hoff
    rw [l.off (by simpa using hoff)] at hon
    cases hon
  | showScope buffer path lines => exact ⟨h.1, (l.agree.reads_eq h.1 lines).trans h.2⟩
  | undecorate | close => exact h

theorem giveUp_fst (h h' : Highlighter) (host host' : Host) (failure : Failure) :
    (h.giveUp host failure).1 = (h'.giveUp host' failure).1 := by
  obtain ⟨outcome, hquiet⟩ | hfails := giveUp_cases failure
  · rw [hquiet, hquiet]
  · rw [hfails, hfails]
    rfl

theorem conclude_willing_fst (h : Highlighter) (outcome : Outcome) (calls : List HostCall) :
    (h.conclude outcome (h.store.callAll .willing calls)).1 = outcome := by
  obtain ⟨host, hwilling, -⟩ := h.store.callAll_willing calls
  rw [hwilling]
  rfl

theorem Lags.isDisabled (l : Lags files full cut) (hon : cut.disabled = false) (host : Host)
    {request : Request} (h : (full.handle files .willing request).1.isDisabled = true) :
    (cut.handle files host request).1.isDisabled = true := by
  have hfull : full.disabled = false := by
    by_contra hoff
    rw [l.off (by simpa using hoff)] at hon
    cases hon
  cases request with
  | highlight buffer path lines visibleEnd refresh =>
    rw [Highlighter.handle] at h ⊢
    cases hfound : files.exists? path with
    | false =>
      rw [highlight_of_missing full .willing hfull hfound] at h
      cases h
    | true =>
      have hsame := l.agree.reads_eq hfound lines
      obtain ⟨failure, h', hreads, hends⟩ | ⟨h', outcome, calls, -, answered, hends⟩ :=
        highlight_ends l.left hfull hfound buffer lines visibleEnd refresh
      · obtain ⟨failure', h'', hreads', hends'⟩ | ⟨-, -, -, hreads', -⟩ :=
          highlight_ends l.right hon hfound buffer lines visibleEnd refresh
        · obtain rfl : failure = failure' :=
            Except.error.inj (hreads.symm.trans (hsame.trans hreads'))
          rw [hends] at h
          rw [hends', giveUp_fst h'' h' host .willing]
          exact h
        · cases hreads.symm.trans (hsame.trans hreads')
      · rw [hends, conclude_willing_fst] at h
        cases outcome with
        | disabled => cases answered
        | _ => cases h
  | undecorate buffer range =>
    rw [Highlighter.handle, undecorate_eq, conclude_willing_fst] at h
    cases h
  | showScope buffer path lines =>
    rw [(full.handle_told files .willing (.showScope buffer path lines)).2 rfl] at h
    cases h
  | close buffer => cases h

theorem Lags.off_handle (l : Lags files full cut) (host : Host) (request : Request)
    (h : (full.handle files .willing request).2.1.disabled = true) :
    (cut.handle files host request).2.1.disabled = true := by
  rw [(full.handle_told files .willing request).1.flag, Bool.or_eq_true] at h
  rw [(cut.handle_told files host request).1.flag, Bool.or_eq_true]
  by_cases hoff : cut.disabled = true
  · exact .inl hoff
  · obtain hwas | hdisables := h
    · exact absurd (l.off hwas) hoff
    · exact .inr (l.isDisabled (by simpa using hoff) host hdisables)

/-- If a willing host is not left alone, no other is, and one highlighter goes on lagging behind the
other. -/
theorem Lags.handle (l : Lags files full cut) (host : Host) (request : Request)
    (h : (full.handle files .willing request).1 ≠ .aborted) :
    (cut.handle files host request).1 ≠ .aborted ∧
      Lags files (full.handle files .willing request).2.1 (cut.handle files host request).2.1 := by
  refine ⟨fun habort => h ?_, ?_⟩
  · obtain ⟨failure, hfails, hgone⟩ := (handle_aborted_iff l.right files host request).1 habort
    exact (handle_aborted_iff l.left files .willing request).2 ⟨failure, l.readFails hfails, hgone⟩
  · have keptLeft : Agree files (fun _ => False) full (full.handle files .willing request).2.1 :=
      agree_handle l.agree.left .willing (.inl not_false)
    have keptRight : Agree files (fun _ => False) cut (cut.handle files host request).2.1 :=
      agree_handle l.agree.right host (.inl not_false)
    obtain ⟨calls, hleft, -⟩ := full.handle_parts files .willing request
    obtain ⟨calls', hright, -⟩ := cut.handle_parts files host request
    exact ⟨hleft ▸ l.left.run calls, hright ▸ l.right.run calls',
      keptLeft.tokenizer.symm.trans (l.agree.trans keptRight.tokenizer), l.off_handle host request⟩

end Highlighter

end Highlighting
