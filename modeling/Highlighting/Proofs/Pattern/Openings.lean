import Highlighting.Pattern.Reader
import Highlighting.Proofs.Pattern.Items

/-!
What readers of parts of a pattern leave of it. Each takes whole items, so no bracket counts as
opened behind the part that did not count as opened before.
-/
namespace Highlighting.Pattern
variable {α β : Type} {text : List Char} {n m : Nat}

/-- A reader leaves a text in which at most so many brackets are opened. -/
def Leaves (n : Nat) (read : Except Fault (α × Rest)) : Prop :=
  ∀ a rest, read = .ok (a, rest) → openings rest ≤ n

theorem Leaves.ok {a : α} {rest : Rest} (h : openings rest ≤ n) : Leaves n (.ok (a, rest)) := by
  rintro _ _ ⟨⟩
  exact h

theorem Leaves.error (fault : Fault) : Leaves n (.error fault : Except Fault (α × Rest)) := nofun

theorem Leaves.bind {read : Except Fault (α × Rest)} {f : α × Rest → Except Fault (β × Rest)}
    (h : Leaves m read) (hf : ∀ a rest, openings rest ≤ m → Leaves n (f (a, rest))) :
    Leaves n (read >>= f) := by
  cases read with
  | error fault => exact .error fault
  | ok r => exact hf r.1 r.2 (h r.1 r.2 rfl)

theorem Leaves.after {x : Except Fault α} {f : α → Except Fault (β × Rest)}
    (hf : ∀ a, Leaves n (f a)) : Leaves n (x >>= f) := by
  cases x with
  | error fault => exact .error fault
  | ok a => exact hf a

theorem Leaves.mono {read : Except Fault (α × Rest)} (h : Leaves m read) (hle : m ≤ n) :
    Leaves n read :=
  fun a rest hr => Nat.le_trans (h a rest hr) hle

section Digits
variable {digit? : Char → Option Nat} {base : Nat}

theorem openings_go_le (hd : digit? '\\' = none) (limit count value : Nat) (text : List Char) :
    openings (readDigits.go digit? base limit count value text).2.2 ≤ openings text := by
  have hdigit : ∀ {c d}, digit? c = some d → c ≠ '\\' := by
    rintro _ _ hc rfl
    rw [hd] at hc
    cases hc
  fun_induction readDigits.go digit? base limit count value text with
  | case1 => exact Nat.le_refl _
  | case2 count value c rest d hc => exact openings_le_cons (hdigit hc)
  | case3 count value c rest d hc limit ih =>
    exact Nat.le_trans ih (openings_le_cons (hdigit hc))
  | case4 => exact Nat.le_refl _

theorem openings_readDigits_le (hd : digit? '\\' = none) (limit : Nat) (text : List Char) :
    openings (readDigits digit? base limit text).2.2 ≤ openings text := by
  unfold readDigits
  split
  · split
    · exact Nat.le_refl _
    · exact openings_go_le hd _ _ _ _
  · exact Nat.le_refl _

end Digits

theorem openings_readNumber_le (text : List Char) :
    openings (readNumber text).2.2 ≤ openings text :=
  openings_readDigits_le (by decide) _ _

theorem openings_readOctalByte_le (limit : Nat) (text : List Char) :
    openings (readOctalByte limit text).2 ≤ openings text :=
  openings_readDigits_le (by decide) _ _

theorem openings_le_of_braced {digit? : Char → Option Nat} {base limit : Nat}
    {inner rest : List Char}
    (hd : digit? '\\' = none) (h : (readDigits digit? base limit inner).2.2 = '}' :: rest) :
    openings rest ≤ openings ('{' :: inner) := by
  have hinner : openings (readDigits digit? base limit inner).2.2 ≤ openings inner :=
    openings_readDigits_le hd limit inner
  rw [h] at hinner
  calc openings rest ≤ openings ('}' :: rest) := openings_le_cons (by decide)
    _ ≤ openings inner := hinner
    _ ≤ openings ('{' :: inner) := openings_le_cons (by decide)

theorem readHexEscape_leaves (text : List Char) : Leaves (openings text) (readHexEscape text) := by
  unfold readHexEscape
  split
  · next inner =>
    dsimp only
    split
    · exact .ok (Nat.le_refl _)
    · split
      · next hrest => exact .ok (openings_le_of_braced (by decide) hrest)
      · exact .error _
  · exact .ok (Nat.le_refl _)
  · exact .ok (openings_readDigits_le (by decide) _ _)

theorem readShortCode_leaves (text : List Char) : Leaves (openings text) (readShortCode text) := by
  unfold readShortCode
  split
  · exact .ok (Nat.le_refl _)
  · dsimp only
    split
    · exact .ok (openings_readDigits_le (by decide) _ _)
    · exact .error _

theorem readOctalEscape_leaves (text : List Char) :
    Leaves (openings text) (readOctalEscape text) := by
  unfold readOctalEscape
  split
  · next inner =>
    dsimp only
    split
    · exact .ok (Nat.le_refl _)
    · split
      · next hrest => exact .ok (openings_le_of_braced (by decide) hrest)
      · exact .error _
  · exact .ok (Nat.le_refl _)

theorem control_leaves {depth : Nat}
    (h : ∀ text, Leaves (openings ('\\' :: text)) (readCode depth text)) (text : List Char) :
    Leaves (openings text) (readCode.control depth text) := by
  unfold readCode.control
  split
  · exact .error _
  · exact .ok (openings_le_cons (by decide))
  · next rest => exact .bind (h rest) fun code rest hrest => .ok hrest
  · next c rest _ hc => exact .ok (openings_le_cons hc)

theorem readCode_leaves (depth : Nat) (text : List Char) :
    Leaves (openings ('\\' :: text)) (readCode depth text) := by
  induction depth generalizing text with
  | zero => unfold readCode; exact .error _
  | succ depth ih =>
    unfold readCode
    split
    · exact .error _
    · exact .error _
    · next rest hdepth =>
      cases hdepth
      rw [openings_escaped]
      split
      · next rest =>
        rw [openings_cons (by decide) (by decide)]
        exact .bind (ih rest) fun code rest hrest => .ok hrest
      · next c rest hc =>
        exact .ok (Nat.le_trans (openings_le_cons hc) (openings_le_cons (by decide)))
      all_goals exact .error _
    · exact .error _
    · next sign rest hdepth =>
      cases hdepth
      rw [openings_escaped]
      split
      · next hsign =>
        exact (control_leaves ih rest).mono (openings_le_cons (by rw [hsign]; decide))
      · exact .error _
    · next rest hdepth =>
      cases hdepth
      rw [openings_escaped]
      exact control_leaves ih rest
    · rw [openings_escaped]
      exact .ok (Nat.le_refl _)

theorem readProperty_leaves (place : Place) (negative : Bool) (text : List Char) :
    Leaves (openings text) (place.readProperty negative text) := by
  unfold Place.readProperty
  split
  next name heq =>
  have hname : openings name ≤ openings text := by
    split at heq <;> cases heq
    · exact openings_le_cons (by decide)
    · exact Nat.le_refl _
  dsimp only
  split
  · next rest hrest =>
    split
    · exact .ok (Nat.le_trans (openings_le_of_drop hrest (by decide)) hname)
    · exact .error _
  · exact .error _

theorem openings_cons_octalDigit {c : Char} (h : (octalDigit? c).isSome = true) (rest : Rest) :
    openings (c :: rest) = openings rest := by
  refine openings_cons ?_ ?_ <;> rintro rfl <;> revert h <;> decide

theorem readByteAgain_le {bases : List Nat} {value : Nat} {rest : Rest}
    (h : readByteAgain bases text = some (value, rest)) : openings rest ≤ openings text := by
  have hkeep : ∀ {value value' base : Nat} {rest rest' : Rest},
      readByteAgain.keep bases value base rest = some (value', rest') → rest' = rest := by
    intro value value' base rest rest' h
    unfold readByteAgain.keep at h
    split at h
    · cases h
      rfl
    · cases h
  unfold readByteAgain at h
  split at h
  · next more =>
    split at h
    · next hread =>
      rw [hkeep h, openings_escaped]
      exact readHexEscape_leaves _ _ _ hread
    · cases h
  · next c more _ =>
    split at h
    · next hoctal =>
      split at h
      · next hread =>
        have hle := openings_readOctalByte_le 3 (c :: more)
        rw [hread, openings_cons_octalDigit hoctal] at hle
        rwa [hkeep h, openings_escaped]
      · cases h
    · cases h
  · cases h

theorem readTrail_leaves (bases : List Nat) (count : Nat) (text : List Char) :
    Leaves (openings text) (readTrail bases count text) := by
  induction count generalizing text with
  | zero => exact .ok (Nat.le_refl _)
  | succ count ih =>
    unfold readTrail
    split
    · exact .error _
    · next value rest hread =>
      have hrest := readByteAgain_le hread
      split
      · exact .error _
      · exact .bind (ih rest) fun more rest' hmore => .ok (Nat.le_trans hmore hrest)

theorem codedToken_leaves (coded : Coded) (rest : Rest) :
    Leaves (openings rest) (codedToken coded rest) := by
  unfold codedToken
  split
  · exact .ok (Nat.le_refl _)
  · split
    · exact .ok (Nat.le_refl _)
    · exact .bind (readTrail_leaves _ _ _) fun trail rest' htrail => .ok htrail

theorem Leaves.coded {read : Except Fault (Option Coded × Rest)}
    {f : Option Coded × Rest → Except Fault (BracketToken × Rest)} (h : Leaves n read)
    (hsome : ∀ coded rest, f (some coded, rest) = codedToken coded rest)
    (hnone : ∀ rest, ∃ token, f (none, rest) = .ok (token, rest)) : Leaves n (read >>= f) := by
  refine h.bind fun coded? rest hrest => ?_
  cases coded? with
  | some coded =>
    rw [hsome]
    exact (codedToken_leaves coded rest).mono hrest
  | none =>
    obtain ⟨token, htoken⟩ := hnone rest
    rw [htoken]
    exact .ok hrest

theorem readBracketEscape_leaves (text : List Char) :
    Leaves (openings ('\\' :: text)) (readBracketEscape text) := by
  have hproperty : ∀ negative rest,
      Leaves (openings rest) (readBracketEscape.property negative rest) := by
    intro negative rest
    exact .bind (readProperty_leaves _ _ _) fun codes rest' hrest => .ok hrest
  unfold readBracketEscape
  split
  · exact .error _
  next c rest =>
  rw [openings_escaped]
  split
  · exact .ok (Nat.le_refl _)
  split
  · exact (hproperty _ _).mono (openings_le_cons (by decide))
  · exact (hproperty _ _).mono (openings_le_cons (by decide))
  · exact (readHexEscape_leaves rest).coded (fun _ _ => rfl) fun _ => ⟨_, rfl⟩
  · exact (readShortCode_leaves rest).coded (fun _ _ => rfl) fun _ => ⟨_, rfl⟩
  · exact (readOctalEscape_leaves rest).coded (fun _ _ => rfl) fun _ => ⟨_, rfl⟩
  · split
    · next hoctal =>
      have hle := openings_readOctalByte_le 3 (c :: rest)
      rw [openings_cons_octalDigit hoctal] at hle
      exact (codedToken_leaves _ _).mono hle
    · have hcode := readCode_leaves ((c :: rest).length + 1) (c :: rest)
      rw [openings_escaped] at hcode
      exact .bind hcode fun code rest' hrest => .ok hrest

theorem className?_le {negative : Bool} {name : List Char} {rest : Rest}
    (h : className? text = some (negative, name, rest)) : openings rest ≤ openings text := by
  unfold className? at h
  split at h
  next more heq =>
  have hmore : openings more ≤ openings text := by
    split at heq <;> cases heq
    · exact openings_le_cons (by decide)
    · exact Nat.le_refl _
  dsimp only at h
  split at h
  · next hdrop =>
    cases h
    have hclose := openings_le_of_drop hdrop (by decide)
    exact Nat.le_trans (openings_le_cons (by decide)) (Nat.le_trans hclose hmore)
  · cases h

theorem readBracketToken_leaves (text : List Char) :
    Leaves (openings text) (readBracketToken text) := by
  unfold readBracketToken
  split
  · exact .error _
  · exact .ok (openings_le_cons (by decide))
  · exact .ok (openings_le_cons (by decide))
  · exact readBracketEscape_leaves _
  · next rest =>
    have hrest : openings rest ≤ openings ('[' :: ':' :: rest) := openings_le_append ['[']
        (by decide)
    split
    · next hname =>
      exact .after fun members => .ok (Nat.le_trans (className?_le hname) hrest)
    · exact .ok (openings_le_cons (by decide))
  · exact .ok (openings_le_cons (by decide))
  · exact .ok (openings_le_append ['&'] (by decide))
  · next hescape _ _ _ => exact .ok (openings_le_cons hescape)

theorem readBracket_leaves (fuel : Nat) :
    (∀ text, Leaves (openings text) (readBracket fuel text)) ∧
      ∀ state text, Leaves (openings text) (readListed fuel state text) := by
  induction fuel with
  | zero =>
    constructor
    · intro text; unfold readBracket; exact .error _
    · intro state text; unfold readListed; exact .error _
  | succ fuel ih =>
    obtain ⟨hbracket, hlisted⟩ := ih
    constructor
    · intro text
      unfold readBracket
      split
      next negative inner heq =>
      have hinner : openings inner ≤ openings text := by
        split at heq <;> cases heq
        · exact openings_le_cons (by decide)
        · exact Nat.le_refl _
      split
      · next rest =>
        have hrest : openings rest ≤ openings text :=
          Nat.le_trans (openings_le_cons (by decide)) hinner
        split
        · exact .after fun state =>
            .bind (hlisted state rest) fun members rest' h => .ok (Nat.le_trans h hrest)
        · exact .error _
      · exact .bind (hlisted _ _) fun members rest' h => .ok (Nat.le_trans h hinner)
    · intro state text
      unfold readListed
      refine .bind (readBracketToken_leaves text) fun token rest hrest => ?_
      cases token with
      | close => exact .ok hrest
      | value v => exact .after fun state => (hlisted state rest).mono hrest
      | named members => exact .after fun state => (hlisted state rest).mono hrest
      | both => exact (hlisted _ rest).mono hrest
      | hyphen => exact .after fun next => .after fun state => (hlisted state rest).mono hrest
      | «open» =>
        exact .bind (hbracket rest) fun inner rest' h =>
          (hlisted _ rest').mono (Nat.le_trans h hrest)

theorem readReference_leaves {close : Char} (hclose : close ≠ '\\') (text : List Char) :
    Leaves (openings text) (readReference close text) := by
  unfold readReference
  split
  · exact .error _
  · next first text =>
    dsimp only
    split
    · next c rest hdrop =>
      split
      · next hc =>
        simp only [Bool.and_eq_true, decide_eq_true_eq] at hc
        have hdrop' : (first :: text).drop (_ + 1) = c :: rest := hdrop
        exact .ok (openings_le_of_drop hdrop' (hc.2 ▸ hclose))
      · exact .error _
    · exact .error _

theorem readOptions_leaves (negative : Bool) (o : Options) (text : List Char) :
    Leaves (openings text) (readOptions negative o text) := by
  fun_induction readOptions negative o text with
  | case1 => exact .ok (openings_le_cons (by decide))
  | case2 => exact .ok (openings_le_cons (by decide))
  | case3 negative o rest ih => exact ih.mono (openings_le_cons (by decide))
  | case4 negative o rest ih => exact ih.mono (openings_le_cons (by decide))
  | case5 negative o rest ih => exact ih.mono (openings_le_cons (by decide))
  | case6 negative o rest ih => exact ih.mono (openings_le_cons (by decide))
  | case7 => exact .error _
  | case8 => exact .error _

theorem skipComment_le {text rest : List Char} (h : skipComment text = .ok rest) :
    openings rest ≤ openings text := by
  fun_induction skipComment text with
  | case1 => cases h
  | case2 =>
    cases h
    exact openings_le_cons (by decide)
  | case3 c more ih =>
    rw [openings_escaped]
    exact ih h
  | case4 c more _ hescape ih =>
    cases more with
    | nil => cases h
    | cons d more => exact Nat.le_trans (ih h) (openings_le_cons fun hc => hescape d more hc rfl)

theorem openings_nextLine_le (text : List Char) :
    openings ((text.dropWhile (· ≠ '\n')).drop 1) ≤ openings text := by
  have hhead := List.head?_dropWhile_not (· ≠ '\n') text
  cases hrest : text.dropWhile (· ≠ '\n') with
  | nil => simp
  | cons c rest =>
    rw [hrest] at hhead
    have hc : c = '\n' := by simpa using hhead
    have hle : openings rest ≤ openings (text.takeWhile (· ≠ '\n') ++ c :: rest) :=
      openings_le_append _ (by rw [hc]; decide)
    rwa [← hrest, List.takeWhile_append_dropWhile] at hle

theorem skipIgnored_le {extended : Bool} {fuel : Nat} {text rest : List Char}
    (h : skipIgnored extended fuel text = .ok rest) : openings rest ≤ openings text := by
  fun_induction skipIgnored extended fuel text with
  | case1 fuel more ih =>
    have hmore : openings more ≤ openings ('(' :: '?' :: '#' :: more) :=
      openings_le_append ['(', '?'] (by decide)
    cases hcomment : skipComment more with
    | error fault =>
      rw [hcomment] at h
      cases h
    | ok after =>
      rw [hcomment] at h
      exact Nat.le_trans (ih after h) (Nat.le_trans (skipComment_le hcomment) hmore)
  | case2 fuel c more _ hblank ih =>
    have hc : c ≠ '\\' := by
      rintro rfl
      simp at hblank
    exact Nat.le_trans (ih h) (openings_le_cons hc)
  | case3 fuel c more _ _ hmark ih =>
    have hc : c ≠ '\\' := by
      rintro rfl
      simp at hmark
    exact Nat.le_trans (ih h) (Nat.le_trans (openings_nextLine_le more) (openings_le_cons hc))
  | case4 =>
    cases h
    exact Nat.le_refl _
  | case5 =>
    cases h
    exact Nat.le_refl _

theorem openings_lazily_le (r : Repeat) (text : List Char) :
    openings (readCount.lazily r text).2 ≤ openings text := by
  unfold readCount.lazily
  split
  · exact openings_le_cons (by decide)
  · exact Nat.le_refl _

theorem openings_suffix_le (least : Nat) (most : Option Nat) (text : List Char) :
    openings (readRepeat.suffix least most text).2 ≤ openings text := by
  unfold readRepeat.suffix
  split
  · exact openings_le_cons (by decide)
  · exact openings_le_cons (by decide)
  · exact Nat.le_refl _

theorem readCount_le {r : Repeat × Rest} (h : readCount text = .ok (some r)) :
    openings r.2 ≤ openings text := by
  have hlow := openings_readNumber_le text
  unfold readCount at h
  dsimp only at h
  split at h
  · cases h
  split at h
  · next afterComma hcomma =>
    have hhigh := openings_readNumber_le afterComma
    rw [hcomma, openings_cons (by decide) (by decide)] at hlow
    split at h
    · cases h
    split at h
    · cases h
    split at h
    · next more hclose =>
      rw [hclose, openings_cons (by decide) (by decide)] at hhigh
      have hmore := Nat.le_trans hhigh hlow
      split at h
      · cases h
        exact Nat.le_trans (openings_lazily_le _ _) hmore
      · split at h <;> cases h
        · exact hmore
        · exact Nat.le_trans (openings_lazily_le _ _) hmore
    · cases h
  · next more hclose =>
    rw [hclose, openings_cons (by decide) (by decide)] at hlow
    split at h <;> cases h
    exact hlow
  · cases h

theorem readRepeat_le {r : Repeat × Rest} (h : readRepeat text = .ok (some r)) :
    openings r.2 ≤ openings text := by
  unfold readRepeat at h
  split at h
  · cases h
    exact Nat.le_trans (openings_suffix_le _ _ _) (openings_le_cons (by decide))
  · cases h
    exact Nat.le_trans (openings_suffix_le _ _ _) (openings_le_cons (by decide))
  · cases h
    exact Nat.le_trans (openings_suffix_le _ _ _) (openings_le_cons (by decide))
  · exact Nat.le_trans (readCount_le h) (openings_le_cons (by decide))
  · cases h

end Highlighting.Pattern
