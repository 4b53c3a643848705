import Highlighting.Proofs.Scan.Discipline

/-! Strokes with scopes that come from the frames of a stack by adding names. -/
namespace Highlighting
open ScanM

namespace Stack

def Scoped (K : Scopes → Prop) (s : Stack) : Prop :=
  ∀ f ∈ s.frames, K f.nameScopes ∧ K f.contentScopes

variable {K : Scopes → Prop} {s s' : Stack} {f : Frame}

theorem Scoped.scopes (h : s.Scoped K) : K s.scopes := (h _ s.top_mem_frames).2

theorem Scoped.push (h : s.Scoped K) (hf : K f.nameScopes ∧ K f.contentScopes)
    (hp : s.push? f = some s') : s'.Scoped K := by
  unfold Scoped
  rw [(frames_of_push hp).1]
  exact List.forall_mem_cons.2 ⟨hf, h⟩

theorem Scoped.pop (h : s.Scoped K) (hp : s.pop? = some (f, s')) :
    (K f.nameScopes ∧ K f.contentScopes) ∧ s'.Scoped K := by
  unfold Scoped at h
  rw [(frames_of_pop hp).1] at h
  exact List.forall_mem_cons.1 h

theorem Scoped.suffix (h : s.Scoped K) {kept : List Frame} (hk : kept <:+ s.regions) :
    Scoped K { s with regions := kept } := by
  intro f hf
  obtain hf | hf := List.mem_append.1 hf
  · exact h f (List.mem_append_left _ (hk.mem hf))
  · exact h f (List.mem_append_right _ hf)

end Stack

/-- What one stroke of paint keeps. -/
def Paint.Kept (I : Paint → Prop) : Prop :=
  ∀ (p : Paint) (place : Nat) (scopes : Scopes), I p → I (p.upTo place scopes)

/-- Names lead from scopes of a kind to scopes of that kind, and a stroke with such scopes keeps
what is said of the paint. -/
structure Strokes (K : Scopes → Prop) (I : Paint → Prop) : Prop where
  enter : ∀ (scopes : Scopes) (name : Option String), K scopes → K (scopes.enter name)
  upTo : ∀ (p : Paint) (place : Nat) (scopes : Scopes), K scopes → I p → I (p.upTo place scopes)

variable {g : Grammar} {K : Scopes → Prop} {I : Paint → Prop}

def Strokes.discipline (hI : Strokes K I) (g : Grammar) : Discipline g where
  copy := id
  sound _ := True
  text _ := True
  found _ _ _ := True
  place _ := True
  scopes _ := K
  stack _ := Stack.Scoped K
  paint := I
  tooDeep := id_eq _
  exhausted := id_eq _
  place_le _ _ := trivial
  cut _ _ := trivial
  size _ := trivial
  next _ _ _ := (Lockstep.refl _).imp fun _ _ _ _ => trivial
  edge _ _ _ _ _ _ := (Lockstep.refl _).imp fun _ _ _ _ _ _ _ _ => ⟨trivial, trivial⟩
  groups _ _ _ _ _ := ⟨trivial, trivial⟩
  enter h name := hI.enter _ name h
  scopes_further _ h := h
  stack_further _ h := h
  top h := h.scopes
  push hp hs hname hcontent := hs.push ⟨hname, hcontent⟩ hp
  pop _ hs _ _ hp := ⟨(hs.pop hp).1.2, (hs.pop hp).1.1, (hs.pop hp).2⟩
  upTo _ hs h := hI.upTo _ _ _ hs h

namespace Grammar
open Discipline

/-- What holds of an unpainted line, and is kept by strokes, holds before the last stroke of a
line, the one to its end. -/
theorem scanLine_strokes (hI : Strokes K I) (nesting : Nat) (line : List Char) {stack : Stack}
    (hs : stack.Scoped K) (h : I (.fresh line.length)) :
    Ensures (g.scanLineWithin nesting line stack)
      fun r => ∃ p scopes, I p ∧ K scopes ∧ r.1 = (p.upTo (line.length + 1) scopes).pieces := by
  have hregions : ∀ f ∈ stack.regions.reverse, K f.nameScopes := by
    intro f hf
    exact (hs f (List.mem_append_left _ (List.mem_reverse.1 hf))).1
  have ht : (hI.discipline g).text (line ++ ['\n']).toArray := trivial
  have hw : (hI.discipline g).Walks stepLimit := (hI.discipline g).walks rfl stepLimit
  unfold scanLineWithin
  refine ((keepOpen_suffix _ _ stack _ [] 0 _).and
    (keepOpen_from hw nesting ht _ [] 0 _ hs hregions h).ensures).bind fun r hr => ?_
  obtain ⟨⟨left, hleft, hstack⟩, hpaint⟩ := hr
  rw [List.reverse_reverse, List.append_nil] at hleft
  have hscoped : r.2.1.Scoped K := hstack ▸ hs.suffix hleft
  refine (scan_ends hw nesting ht _ hscoped hpaint.paint).ensures.bind fun r hr => ?_
  obtain ⟨p, hafter, hp, he⟩ := hr
  refine Ensures.pure ⟨p, r.1.scopes, hp.paint, hafter.scopes, ?_⟩
  rw [he, List.size_toArray, List.length_append, List.length_singleton]

theorem scanLine_keeps (hI : Paint.Kept I) (nesting : Nat) (line : List Char) (stack : Stack)
    (h : I (.fresh line.length)) :
    Ensures (g.scanLineWithin nesting line stack)
      fun r => ∃ p scopes, I p ∧ r.1 = (p.upTo (line.length + 1) scopes).pieces := by
  have strokes : Strokes (fun _ => True) I :=
    ⟨fun _ _ _ => trivial, fun p place scopes _ => hI p place scopes⟩
  have hany : stack.Scoped fun _ => True := fun _ _ => ⟨trivial, trivial⟩
  refine (scanLine_strokes strokes nesting line hany h).imp fun r hr => ?_
  obtain ⟨p, scopes, hp, -, he⟩ := hr
  exact ⟨p, scopes, hp, he⟩

end Grammar

end Highlighting
