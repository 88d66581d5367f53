import FaultInjection.Proofs.Draws
import FaultInjection.Proofs.Registry.Session

/-!
# The history of one name

Whatever is called on a registry, what it answers about a name depends on what happened to that name
alone. `Session.history` keeps what happened to a name: texts installed, by whichever call, removals,
and hits with the draws that they took. `Standing` is what such a history comes down to, `Standing.Fits`
relates it to the failpoint, `Fits.after` carries this through every call, and
`exists_fits_run` through all of them.
-/

namespace FaultInjection

open Decimal Draws

/-- Something that happens to a name. -/
inductive Happening where
  /-- A term was installed. -/
  | installed (spec : String)
  /-- The term was removed. -/
  | cleared
  /-- A hit took these draws. -/
  | hit (drawn : List Binary64)
  deriving DecidableEq

namespace Session

/-- What an entry does to `n`: it installs a term if it names `n` and holds the text of one. -/
def installed? (n : String) : Except RegistryError Assignment → Option Happening
  | .ok a => if a.name = n ∧ (Term.parse a.spec).isOk then some (.installed a.spec) else none
  | .error _ => none

/-- What the entries of a bulk text do to `n`, in order. -/
def installs (n : String) (entries : List (Except RegistryError Assignment)) : List Happening :=
  entries.filterMap (installed? n)

theorem installs_cons_ok (n : String) (a : Assignment) (entries : List (Except RegistryError Assignment)) :
    installs n (.ok a :: entries) =
      (if a.name = n ∧ (Term.parse a.spec).isOk then [.installed a.spec] else []) ++ installs n entries := by
  rw [installs, List.filterMap_cons, installed?]
  by_cases hc : a.name = n ∧ (Term.parse a.spec).isOk = true
  · rw [if_pos hc, if_pos hc]
    rfl
  · rw [if_neg hc, if_neg hc]
    rfl

/-- What a call does to the registered name `n`. -/
def happenings (n : String) (σ : Session) : Operation → List Happening
  | .set name spec => installs n [.ok ⟨name, spec⟩]
  | .setMany assignments => installs n (assignments.map .ok)
  | .assign body => installs n (Assignment.parseMany body)
  | .deactivate name => if name = n then [.cleared] else []
  | .hit name => if name = n then [.hit (drawn σ.draws (σ.after (.hit name)).draws)] else []
  | .get _ | .term _ | .count _ | .list => []

/-- What several calls do to the registered name `n`, in order. -/
def history (n : String) : Session → List Operation → List Happening
  | _, [] => []
  | σ, c :: calls => happenings n σ c ++ history n (σ.after c) calls

end Session

/-- What the history of a name comes down to: no term, or the text installed last and the draws of
each hit since. -/
inductive Standing where
  | disabled
  | armed (spec : String) (hits : List (List Binary64))

namespace Standing

/-- The standing after something more happened. -/
def next : Standing → Happening → Standing
  | _, .installed spec => .armed spec []
  | _, .cleared => .disabled
  | .disabled, .hit _ => .disabled
  | .armed spec hits, .hit drawn => .armed spec (hits ++ [drawn])

/-- The standing that a history leads to. -/
def ofHistory (past : List Happening) : Standing := past.foldl next .disabled

/-- Hits on a fresh start that take these draws lead to `p`, and leave any further draws alone. -/
def Replays (t : Term) (hits : List (List Binary64)) (p : Position) : Prop :=
  ∀ d, (Position.walk t hits.length (Position.start t) (prepend hits.flatten d)).1 = p ∧
    (Position.walk t hits.length (Position.start t) (prepend hits.flatten d)).2.ahead = d.ahead

/-- A failpoint with this standing. -/
def Fits : Standing → Failpoint → Prop
  | .disabled, f => f.installed = none
  | .armed spec hits, f => ∃ t, Term.parse spec = .ok t ∧ f.installed = some t ∧ f.hits = hits.length ∧
      Replays t hits f.position

variable {st : Standing} {f : Failpoint}

theorem replays_nil (t : Term) : Replays t [] (Position.start t) :=
  fun d => ⟨rfl, ahead_prepend_nil d⟩

/-- One more hit, with the draws that it takes. -/
theorem Replays.concat {t : Term} {hits : List (List Binary64)} {p : Position} (h : Replays t hits p)
    (d : Draws) : Replays t (hits ++ [drawn d (p.advance t d).2.2]) (p.advance t d).2.1 := by
  intro e
  have hflat : (hits ++ [drawn d (p.advance t d).2.2]).flatten =
      hits.flatten ++ drawn d (p.advance t d).2.2 := by simp
  have hsplit := ahead_prepend_append hits.flatten (drawn d (p.advance t d).2.2) e
  obtain ⟨hp, hahead⟩ := h (prepend (drawn d (p.advance t d).2.2) e)
  obtain ⟨hwalk, hrest⟩ := Position.walk_congr (t := t) (p := Position.start t) hsplit hits.length
  obtain ⟨-, hpos, hdraws⟩ := Position.advance_congr (t := t) (p := p) (hrest.trans hahead)
  obtain ⟨-, hpos', hdraws'⟩ := Position.advance_prepend_drawn t p d e
  rw [hflat, List.length_append, List.length_singleton, Position.walk_succ, hwalk, hp]
  exact ⟨hpos.trans hpos', hdraws.trans hdraws'⟩

theorem Fits.clear (f : Failpoint) : Fits .disabled f.clear := rfl

theorem Fits.setting (h : st.Fits f) (spec : String) :
    (if (Term.parse spec).isOk then st.next (.installed spec) else st).Fits (Registry.setting spec f) := by
  unfold Registry.setting
  cases ht : Term.parse spec with
  | ok t => exact ⟨t, ht, rfl, rfl, replays_nil t⟩
  | error fault => exact h

theorem Fits.settling (h : st.Fits f) (n : String) (entries : List (Except RegistryError Assignment)) :
    ((Session.installs n entries).foldl next st).Fits (Registry.settling n entries f) := by
  induction entries generalizing st f with
  | nil => exact h
  | cons entry entries ih =>
    cases entry with
    | error e => exact ih h
    | ok a =>
      rw [Registry.settling, Session.installs_cons_ok, List.foldl_append]
      by_cases hn : n = a.name
      · have hset := h.setting a.spec
        rw [if_pos hn]
        by_cases hok : (Term.parse a.spec).isOk = true
        · rw [if_pos hok] at hset
          rw [if_pos ⟨hn.symm, hok⟩]
          exact ih hset
        · rw [if_neg hok] at hset
          rw [if_neg fun hc => hok hc.2]
          exact ih hset
      · rw [if_neg hn, if_neg fun hc => hn hc.1.symm]
        exact ih h

theorem Fits.hit (h : st.Fits f) (d : Draws) :
    (st.next (.hit (drawn d (f.hit d).2.2))).Fits (f.hit d).2.1 := by
  cases st with
  | disabled =>
    have hnone : f.installed = none := h
    rw [Failpoint.hit_of_none hnone]
    exact hnone
  | armed spec hits =>
    obtain ⟨t, ht, hinstalled, hcount, hreplay⟩ := h
    rw [Failpoint.hit_of_some hinstalled]
    refine ⟨t, ht, hinstalled, ?_, hreplay.concat d⟩
    dsimp only
    rw [hcount, List.length_append, List.length_singleton]

/-- Every call brings the failpoint along with the history of its name. -/
theorem Fits.after {σ : Session} {n : String} (h : st.Fits f) (hf : σ.registry.find? n = some f)
    (c : Operation) : ∃ f', (σ.after c).registry.find? n = some f' ∧
      ((Session.happenings n σ c).foldl next st).Fits f' := by
  cases c with
  | set name spec =>
    exact ⟨_, Registry.find?_applyEntries hf [.ok ⟨name, spec⟩], h.settling n [.ok ⟨name, spec⟩]⟩
  | setMany assignments => exact ⟨_, Registry.find?_applyEntries hf _, h.settling n _⟩
  | assign body => exact ⟨_, Registry.find?_applyEntries hf _, h.settling n _⟩
  | deactivate name =>
    refine ⟨_, Registry.find?_deactivate hf name, ?_⟩
    by_cases hn : n = name
    · rw [if_pos hn, Session.happenings, if_pos hn.symm]
      exact .clear f
    · rw [if_neg hn, Session.happenings, if_neg (Ne.symm hn)]
      exact h
  | hit name =>
    refine ⟨_, Registry.find?_hit hf name σ.draws, ?_⟩
    by_cases hn : n = name
    · subst hn
      have hdraws : (σ.after (.hit n)).draws = (f.hit σ.draws).2.2 := by
        rw [Session.after, Registry.hit_of_some hf]
      rw [if_pos rfl, Session.happenings, if_pos rfl, hdraws]
      exact h.hit σ.draws
    · rw [if_neg hn, Session.happenings, if_neg (Ne.symm hn)]
      exact h
  | get name => exact ⟨f, hf, h⟩
  | term name => exact ⟨f, hf, h⟩
  | count name => exact ⟨f, hf, h⟩
  | list => exact ⟨f, hf, h⟩

/-- After any calls the failpoint has the standing to which the history of its name leads. -/
theorem Fits.run {σ : Session} {n : String} (h : st.Fits f) (hf : σ.registry.find? n = some f)
    (calls : List Operation) : ∃ f', (σ.run calls).registry.find? n = some f' ∧
      ((Session.history n σ calls).foldl next st).Fits f' := by
  induction calls generalizing σ st f with
  | nil => exact ⟨f, hf, h⟩
  | cons c calls ih =>
    obtain ⟨f1, hf1, h1⟩ := h.after hf c
    rw [Session.history, List.foldl_append]
    exact ih h1 hf1

/-- What the calls on a new registry leave under a name. -/
theorem exists_fits_run {r : Registry} (hr : r.Fresh) (d : Draws) (calls : List Operation) {n : String}
    (hn : n ∈ r.names) : ∃ f, (Session.run ⟨r, d⟩ calls).registry.find? n = some f ∧
      (ofHistory (Session.history n ⟨r, d⟩ calls)).Fits f := by
  obtain ⟨f, hf⟩ : ∃ f, (Session.mk r d).registry.find? n = some f := Registry.exists_find? hn
  have hdisabled : Standing.disabled.Fits f := hr.installed_eq_none (List.mem_of_find?_eq_some hf)
  exact hdisabled.run hf calls

end Standing

end FaultInjection
