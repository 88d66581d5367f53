import FaultInjection.Proofs.Hits
import FaultInjection.Proofs.Run

/-!
# The nested loops of a demonstration function

The function `labels` takes up to five hits in each of five rounds. What it does is read off the actions that
its next hits select: a round ends early at the first of them that returns (`Round`), and the whole call ends
at the first that panics (`Breaks`). The inner loop is a round or a part of one (`innerRun`), the outer loop
is a row of rounds (`outerRun`), and every hit is accounted for, `labels_accounts`.
-/

namespace FaultInjection.DemoFunction

open Registry Trail

variable {a : Nat → Action} {limit m : Nat} {message : String} {t : Trail}

/-- A round of at most `limit` hits takes the first `m` of these actions. Only the last of them may return,
and it does if the round ends early. -/
structure Round (limit : Nat) (a : Nat → Action) (m : Nat) : Prop where
  pos : 1 ≤ m
  le : m ≤ limit
  goesOn : ∀ j, j + 1 < m → ¬ (a j).Returns
  cut : m < limit → (a (m - 1)).Returns
  calm : ∀ j < m, ¬ (a j).Panics

/-- A round of at most `limit` hits breaks off with a panic after `m` hits that let it go on. -/
structure Breaks (limit : Nat) (a : Nat → Action) (m : Nat) (message : String) : Prop where
  lt : m < limit
  goesOn : ∀ j < m, ¬ (a j).Returns
  calm : ∀ j < m, ¬ (a j).Panics
  panics : outcomeOf labels.failpoint (a m) = .panic message

/-- Rounds that take so many hits each, one after another. -/
def Rounds (a : Nat → Action) : List Nat → Prop
  | [] => True
  | m :: ms => Round rounds a m ∧ Rounds (fun j => a (m + j)) ms

/-! ## One round -/

/-- What holds of some hits and of as many behind them as are asked for. -/
theorem forall_lt_add {p : Nat → Prop} {k : Nat} (hfront : ∀ j < k, p j) (hback : ∀ j < m, p (k + j)) :
    ∀ j < k + m, p j := by
  intro j hj
  by_cases hearly : j < k
  · exact hfront j hearly
  · have hlate : p (k + (j - k)) := hback (j - k) (by omega)
    rwa [Nat.add_sub_cancel' (Nat.le_of_not_lt hearly)] at hlate

theorem Round.of_returns (h : (a 0).Returns) : Round (limit + 1) a 1 where
  pos := Nat.le_refl 1
  le := Nat.succ_le_succ (Nat.zero_le limit)
  goesOn j hj := absurd hj (by omega)
  cut _ := h
  calm := by
    obtain ⟨value, hvalue⟩ := h
    simp [hvalue, Action.Panics]

theorem Round.of_last (h : ¬ (a 0).Panics) : Round 1 a 1 where
  pos := Nat.le_refl 1
  le := Nat.le_refl 1
  goesOn j hj := absurd hj (by omega)
  cut hlt := absurd hlt (Nat.lt_irrefl 1)
  calm := by simpa using h

theorem Breaks.of_panics (h : outcomeOf labels.failpoint (a 0) = .panic message) :
    Breaks (limit + 1) a 0 message :=
  ⟨Nat.succ_pos limit, nofun, nofun, h⟩

/-- A hit that lets the round go on, in front of the others. -/
theorem Round.cons (hret : ¬ (a 0).Returns) (hpanic : ¬ (a 0).Panics) (h : Round limit (fun j => a (1 + j)) m) :
    Round (limit + 1) a (1 + m) where
  pos := Nat.le_add_right 1 m
  le := by
    have hle := h.le
    omega
  goesOn := by
    have hpos := h.pos
    have hgoesOn : ∀ j < 1 + (m - 1), ¬ (a j).Returns :=
      forall_lt_add (by simpa using hret) fun j hj => h.goesOn j (by omega)
    exact fun j hj => hgoesOn j (by omega)
  cut hlt := by
    have hpos := h.pos
    have hlast := h.cut (by omega)
    rwa [show 1 + (m - 1) = 1 + m - 1 by omega] at hlast
  calm := forall_lt_add (by simpa using hpanic) h.calm

theorem Breaks.cons (hret : ¬ (a 0).Returns) (hpanic : ¬ (a 0).Panics)
    (h : Breaks limit (fun j => a (1 + j)) m message) : Breaks (limit + 1) a (1 + m) message where
  lt := by
    have hlt := h.lt
    omega
  goesOn := forall_lt_add (by simpa using hret) h.goesOn
  calm := forall_lt_add (by simpa using hpanic) h.calm
  panics := h.panics

/-- How the inner loop ends: with a round, or with a panic in it. There is a letter for each hit. -/
inductive InnerRun (limit : Nat) (t : Trail) : List Char × Option String × Trail → Prop where
  | ended {m : Nat} {t' : Trail} : Round limit (t.selection labels.failpoint) m →
      t.Accounts labels.failpoint m t' → InnerRun limit t (List.replicate m 'j', none, t')
  | broken {m : Nat} {message : String} {t' : Trail} :
      Breaks limit (t.selection labels.failpoint) m message → t.Accounts labels.failpoint (m + 1) t' →
      InnerRun limit t (List.replicate (m + 1) 'j', some message, t')

/-- A hit that lets the round go on, in front of the rest of the loop. -/
theorem InnerRun.cons {t₁ t' : Trail} {letters : List Char} {panicked : Option String}
    (hfirst : t.Accounts labels.failpoint 1 t₁)
    (hgo : outcomeOf labels.failpoint (t.selection labels.failpoint 0) = .continue)
    (h : InnerRun limit t₁ (letters, panicked, t')) : InnerRun (limit + 1) t ('j' :: letters, panicked, t') := by
  obtain ⟨hret, hpanic⟩ := outcomeOf_eq_continue_iff.1 hgo
  have hshift : t₁.selection labels.failpoint = fun j => t.selection labels.failpoint (1 + j) :=
    funext hfirst.selection
  cases h with
  | @ended m _ hround haccounts =>
    rw [← List.replicate_succ, Nat.add_comm m 1]
    rw [hshift] at hround
    exact .ended (hround.cons hret hpanic) (hfirst.trans haccounts)
  | @broken m message _ hbreaks haccounts =>
    rw [← List.replicate_succ, show m + 1 + 1 = 1 + m + 1 by omega]
    rw [hshift] at hbreaks
    exact .broken (hbreaks.cons hret hpanic) (by simpa [Nat.add_assoc] using hfirst.trans haccounts)

/-- The loop takes a hit, and goes on behind it only if the hit lets it. -/
theorem InnerRun.step (hr : t.registry.names.Nodup)
    (hrest : ∀ t₁, t.Accounts labels.failpoint 1 t₁ →
      outcomeOf labels.failpoint (t.selection labels.failpoint 0) = .continue →
      InnerRun (limit + 1) t ('j' :: (innerLoop limit t₁).1, (innerLoop limit t₁).2)) :
    InnerRun (limit + 1) t (innerLoop (limit + 1) t) := by
  have hfirst := accounts_inject hr labels.failpoint
  have houtcome := inject_fst t labels.failpoint
  rw [innerLoop]
  generalize t.inject labels.failpoint = injected at hfirst houtcome ⊢
  obtain ⟨outcome, t₁⟩ := injected
  cases outcome with
  | ret value => exact .ended (.of_returns ⟨value, outcomeOf_eq_ret_iff.1 houtcome.symm⟩) hfirst
  | panic message => exact .broken (.of_panics houtcome.symm) hfirst
  | «continue» => exact hrest t₁ hfirst houtcome.symm

/-- The inner loop runs through a round, or through a part of one up to a panic. -/
theorem innerRun (limit : Nat) (hr : t.registry.names.Nodup) :
    InnerRun (limit + 1) t (innerLoop (limit + 1) t) := by
  induction limit generalizing t with
  | zero =>
    refine .step hr fun t₁ hfirst hgo => ?_
    exact .ended (.of_last (outcomeOf_eq_continue_iff.1 hgo).2) hfirst
  | succ limit ih =>
    refine .step hr fun t₁ hfirst hgo => ?_
    have hr₁ : t₁.registry.names.Nodup := by rw [hfirst.only.names]; exact hr
    exact .cons hfirst hgo (ih hr₁)

/-! ## All rounds -/

/-- The letters of a round of so many hits. -/
def roundText (m : Nat) : List Char := 'i' :: List.replicate m 'j'

/-- How the outer loop ends: after so many rounds, or with a panic in the round behind some of them. -/
inductive OuterRun (count : Nat) (t : Trail) : List Char × Option String × Trail → Prop where
  | ended {ms : List Nat} {t' : Trail} : ms.length = count → Rounds (t.selection labels.failpoint) ms →
      t.Accounts labels.failpoint ms.sum t' → OuterRun count t (ms.flatMap roundText, none, t')
  | broken {ms : List Nat} {m : Nat} {letters : List Char} {message : String} {t' : Trail} : ms.length < count →
      Rounds (t.selection labels.failpoint) ms →
      Breaks rounds (fun j => t.selection labels.failpoint (ms.sum + j)) m message →
      t.Accounts labels.failpoint (ms.sum + m + 1) t' → OuterRun count t (letters, some message, t')

/-- A round in front of the rest of the loop. -/
theorem OuterRun.cons {count : Nat} {t₁ t' : Trail} {letters : List Char} {panicked : Option String}
    (hround : Round rounds (t.selection labels.failpoint) m) (hfirst : t.Accounts labels.failpoint m t₁)
    (h : OuterRun count t₁ (letters, panicked, t')) :
    OuterRun (count + 1) t ('i' :: List.replicate m 'j' ++ letters, panicked, t') := by
  have hshift : t₁.selection labels.failpoint = fun j => t.selection labels.failpoint (m + j) :=
    funext hfirst.selection
  cases h with
  | @ended ms _ hlength hrounds haccounts =>
    rw [hshift] at hrounds
    have hmore : (m :: ms).length = count + 1 := congrArg (· + 1) hlength
    exact .ended hmore ⟨hround, hrounds⟩ (hfirst.trans haccounts)
  | @broken ms m' _ message _ hlength hrounds hbreaks haccounts =>
    simp only [hshift, ← Nat.add_assoc] at hrounds hbreaks
    have hmore : (m :: ms).length < count + 1 := Nat.succ_lt_succ hlength
    refine .broken hmore ⟨hround, hrounds⟩ hbreaks ?_
    simpa [Nat.add_assoc] using hfirst.trans haccounts

theorem outerRun (count : Nat) (hr : t.registry.names.Nodup) : OuterRun count t (outerLoop count t) := by
  -- the induction is on the rounds that are left; `innerRun` carries one round, `OuterRun.cons` the others
  induction count generalizing t with
  | zero =>
    have hnone : ([] : List Nat).length = 0 := rfl
    exact .ended hnone trivial (.refl t labels.failpoint)
  | succ count ih =>
    have hinner : InnerRun rounds t (innerLoop rounds t) := innerRun 4 hr
    rw [outerLoop]
    generalize innerLoop rounds t = inner at hinner ⊢
    cases hinner with
    | @ended m t₁ hround haccounts =>
      have hr₁ : t₁.registry.names.Nodup := by rw [haccounts.only.names]; exact hr
      exact .cons hround haccounts (ih hr₁)
    | @broken m message t₁ hbreaks haccounts =>
      have hfewer : ([] : List Nat).length < count + 1 := Nat.succ_pos count
      refine .broken hfewer trivial ?_ ?_ (m := m)
      · simpa using hbreaks
      · simpa using haccounts

theorem Rounds.calm {ms : List Nat} (h : Rounds a ms) : ∀ j < ms.sum, ¬ (a j).Panics := by
  induction ms generalizing a with
  | nil => exact fun j hj => absurd hj (Nat.not_lt_zero j)
  | cons m ms ih =>
    obtain ⟨hround, hrounds⟩ := h
    rw [List.sum_cons]
    exact forall_lt_add hround.calm (ih hrounds)

/-- There is a letter `j` for each hit. -/
theorem count_roundText (ms : List Nat) : (ms.flatMap roundText).count 'j' = ms.sum := by
  induction ms with
  | nil => rfl
  | cons m ms ih =>
    rw [List.flatMap_cons, List.count_append, ih, List.sum_cons, roundText, List.count_cons_of_ne (by decide),
      List.count_replicate_self]

/-- The function accounts for every hit on its failpoint. If it returns, none of the hits that it took
panics, and its text tells the rounds and their hits. If it panics, it does so at the first hit that does,
and that is the last hit. In either case those hits are counted under the installed term, no other failpoint
changes, and the time that passed is the sum of their pauses. -/
theorem labels_accounts (t : Trail) (h : t.registry.Reachable) :
    (∃ ms t', labels.call t = (.ok (.string (String.ofList (ms.flatMap roundText))), t') ∧
      ms.length = rounds ∧ Rounds (t.selection labels.failpoint) ms ∧
      (∀ j < ms.sum, ¬ (t.selection labels.failpoint j).Panics) ∧
      (ms.flatMap roundText).count 'j' = ms.sum ∧
      t.Accounts labels.failpoint ms.sum t' ∧
      t'.slept = t.slept + ((t.actions labels.failpoint ms.sum).map Action.pause).sum) ∨
    (∃ ms m message t', labels.call t = (.error message, t') ∧
      ms.length < rounds ∧ Rounds (t.selection labels.failpoint) ms ∧
      Breaks rounds (fun j => t.selection labels.failpoint (ms.sum + j)) m message ∧
      (∀ j < ms.sum + m, ¬ (t.selection labels.failpoint j).Panics) ∧
      (t.selection labels.failpoint (ms.sum + m)).Panics ∧
      t.Accounts labels.failpoint (ms.sum + m + 1) t' ∧
      t'.slept = t.slept + ((t.actions labels.failpoint (ms.sum + m + 1)).map Action.pause).sum) := by
  have hrun := outerRun rounds h.nodup
  unfold call
  dsimp only
  generalize outerLoop rounds t = outer at hrun ⊢
  cases hrun with
  | @ended ms t' hlength hrounds haccounts =>
    exact .inl ⟨ms, t', rfl, hlength, hrounds, hrounds.calm, count_roundText ms, haccounts, haccounts.slept⟩
  | @broken ms m letters message t' hlength hrounds hbreaks haccounts =>
    obtain ⟨configured, hpanic, -⟩ := outcomeOf_eq_panic_iff.1 hbreaks.panics
    have hcalm : ∀ j < ms.sum + m, ¬ (t.selection labels.failpoint j).Panics :=
      forall_lt_add hrounds.calm hbreaks.calm
    exact .inr ⟨ms, m, message, t', rfl, hlength, hrounds, hbreaks, hcalm, ⟨configured, hpanic⟩, haccounts,
      haccounts.slept⟩

/-- The failpoint of `labels` in a new registry. -/
def labelsOnly : Registry := ⟨[.disabled ⟨"ExampleLabels", by decide⟩]⟩

/-- Two hits pause, the next one returns, and seven hits later there is a panic. -/
def staged : Trail := (start labelsOnly (.constant .zero)).run
  [.operate (.set "ExampleLabels" "2*sleep(1)->1*return->7*off->panic(\"x\")")]

/-- The panic is the eleventh hit, in the third round, and two milliseconds have passed by then. -/
theorem labels_accounts_staged : staged.registry.Reachable ∧ ∃ ms m t',
    labels.call staged = (.error "x", t') ∧ Rounds (staged.selection "ExampleLabels") ms ∧ ms.length < 5 ∧
      ms.sum + m + 1 = 11 ∧ t'.slept = 2000000 := by
  have hnew : Registry.ofNames ["ExampleLabels"] = .ok labelsOnly := by decide +kernel
  have hreach : staged.registry.Reachable := ⟨_, _, _, _, hnew, rfl⟩
  have hpanic : (labels.call staged).1 = .error "x" := by decide +kernel
  have hbefore : staged.registry.count "ExampleLabels" = .ok 0 := by decide +kernel
  have hafter : (labels.call staged).2.registry.count "ExampleLabels" = .ok 11 := by decide +kernel
  refine ⟨hreach, ?_⟩
  rcases labels_accounts staged hreach with ⟨ms, t', hcall, -⟩ |
    ⟨ms, m, message, t', hcall, hlength, hrounds, -, -, -, haccounts, hslept⟩
  · rw [hcall] at hpanic
    cases hpanic
  · rw [hcall] at hpanic hafter
    have hhits : 0 + (ms.sum + m + 1) = 11 :=
      Except.ok.inj ((haccounts.only.counted 0 hbefore).symm.trans hafter)
    rw [Nat.zero_add] at hhits
    refine ⟨ms, m, t', ?_, hrounds, hlength, hhits, ?_⟩
    · rw [hcall, Except.error.inj hpanic]
    · rw [hslept, hhits]
      decide +kernel

end FaultInjection.DemoFunction
