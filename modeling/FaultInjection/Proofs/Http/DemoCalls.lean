import FaultInjection.Proofs.Demo.Labels
import FaultInjection.Proofs.Http.ReturnedValue

/-!
# Which requests reach a failpoint of the demonstration

A request runs a function if it asks with a method of the route for the name of the function, in some
spelling, and no pair of its query is an argument in any spelling (`Request.Invokes`). It then leaves what the
hits of the function leave, on the one failpoint of the function (`DemoFunction.accounts_call`). No other
request leaves anything, `demo_reaches`.
-/

namespace FaultInjection

namespace DemoFunction

open Registry Trail

variable {a : Nat → Action} {t : Trail}

/-- A function without a loop leaves what one injection leaves. -/
theorem trail_call {f : DemoFunction} (h : f ≠ labels) (t : Trail) : (f.call t).2 = (t.inject f.failpoint).2 := by
  cases f with
  | plain =>
    rw [call]
    split <;> next hinject => rw [hinject]
  | oneLine =>
    rw [call]
    split <;> next hinject => rw [hinject]
  | labels => exact absurd rfl h

theorem Rounds.le_sum {ms : List Nat} (h : Rounds a ms) : ms.length ≤ ms.sum ∧ ms.sum ≤ rounds * ms.length := by
  induction ms generalizing a with
  | nil => exact ⟨Nat.le_refl 0, Nat.zero_le _⟩
  | cons m ms ih =>
    obtain ⟨hround, hrounds⟩ := h
    have hpos := hround.pos
    have hle := hround.le
    have hlater := ih hrounds
    rw [List.length_cons, List.sum_cons, Nat.mul_succ]
    omega

theorem accounts_call_labels (hr : t.registry.names.Nodup) :
    ∃ k, 1 ≤ k ∧ k ≤ rounds * rounds ∧ t.Accounts labels.failpoint k (labels.call t).2 := by
  have hrun := outerRun rounds hr
  rw [call]
  generalize outerLoop rounds t = outer at hrun ⊢
  cases hrun with
  | @ended ms t' hlength hrounds haccounts =>
    obtain ⟨hleast, hmost⟩ := hrounds.le_sum
    rw [hlength] at hleast hmost
    exact ⟨ms.sum, Nat.le_trans (by decide) hleast, hmost, haccounts⟩
  | @broken ms m letters message t' hlength hrounds hbreaks haccounts =>
    have hmost : ms.sum ≤ rounds * ms.length := hrounds.le_sum.2
    have hlt : m < rounds := hbreaks.lt
    refine ⟨ms.sum + m + 1, Nat.le_add_left 1 _, ?_, haccounts⟩
    unfold rounds at *
    omega

/-- A function takes hits on its own failpoint: one, or as many as its loops do. -/
theorem accounts_call (f : DemoFunction) (hr : t.registry.names.Nodup) :
    ∃ k, 1 ≤ k ∧ k ≤ rounds * rounds ∧ (f ≠ labels → k = 1) ∧ t.Accounts f.failpoint k (f.call t).2 := by
  by_cases hf : f = labels
  · subst hf
    obtain ⟨k, hleast, hmost, haccounts⟩ := accounts_call_labels hr
    exact ⟨k, hleast, hmost, fun h => absurd rfl h, haccounts⟩
  · have haccounts := accounts_inject hr f.failpoint
    rw [← trail_call hf] at haccounts
    exact ⟨1, Nat.le_refl 1, by decide, fun _ => rfl, haccounts⟩

end DemoFunction

namespace Http

open Text

variable {r : Registry} {d : Draws} {q : Request}

/-! ## Paths -/

/-- A text that is not split has no delimiter in it. -/
theorem not_mem_of_splitOn_eq {c : Char} {cs : List Char} (h : cs.splitOn c = [cs]) : c ∉ cs := by
  intro hmem
  obtain ⟨as, bs, rfl, hfirst⟩ := List.eq_append_cons_of_mem hmem
  rw [List.splitOn_append_cons_self_of_not_mem hfirst] at h
  exact List.splitOn_ne_nil _ _ (List.cons.inj h).2

/-- The path of a call is `/call/` and one segment. -/
theorem calledSegment?_eq_some_iff {path segment : List Char} :
    calledSegment? path = some segment ↔
      path = "/call/".toList ++ segment ∧ '/' ∉ segment ∧ segment ≠ [] := by
  have hword : '/' ∉ "call".toList := by decide
  have hcut (s : List Char) : pathSegments? ("/call/".toList ++ s) = some ("call".toList :: s.splitOn '/') :=
    congrArg some (List.splitOn_append_cons_self_of_not_mem hword s)
  unfold calledSegment?
  constructor
  · intro h
    split at h
    · next word s hsegments =>
      split at h
      · next hcalled =>
        obtain ⟨rfl, hne⟩ := hcalled
        obtain rfl := Option.some.inj h
        have hpath : path = "/call/".toList ++ s := by
          rw [exists_of_pathSegments? hsegments]
          simp [List.intercalate]
        rw [hpath, hcut] at hsegments
        exact ⟨hpath, not_mem_of_splitOn_eq (List.cons.inj (Option.some.inj hsegments)).2, hne⟩
      · cases h
    · cases h
  · rintro ⟨rfl, hwhole, hne⟩
    rw [hcut, List.splitOn_eq_singleton hwhole]
    exact if_pos ⟨rfl, hne⟩

/-- The path of the request calls what has this name, in some spelling. -/
def Request.Addresses (q : Request) (name : String) : Prop :=
  ∃ segment, q.target.path = "/call/".toList ++ segment ∧ segment ≠ [] ∧ Spells segment name

theorem addresses_iff {name : String} : q.Addresses name ↔
    ∃ segment, calledSegment? q.target.path = some segment ∧ decodeSegment? segment = some name := by
  simp only [Request.Addresses, calledSegment?_eq_some_iff]
  constructor
  · rintro ⟨segment, hpath, hne, hspells⟩
    exact ⟨segment, ⟨hpath, hspells.whole, hne⟩, hspells.denotes⟩
  · rintro ⟨segment, ⟨hpath, hwhole, hne⟩, hdecode⟩
    exact ⟨segment, hpath, hne, hwhole, hdecode⟩

/-! ## Queries -/

/-- The key of a pair in a query: what stands before its first `=`, read as a part of a form. -/
def formKey (pair : List UInt8) : String :=
  Utf8.decodeLossy (Percent.decodeForm (pair.takeWhile (· != 0x3D)))

/-- Some pair of the query is an argument. -/
def Target.HasArgument (target : Target) : Prop :=
  ∃ query ∈ target.query, ∃ pair ∈ (Utf8.encode query).splitOn 0x26, formKey pair = "arg"

theorem argumentCount_eq_zero_iff {target : Target} : argumentCount target = 0 ↔ ¬ target.HasArgument := by
  unfold argumentCount Target.HasArgument
  cases target.query with
  | none => simp
  | some query =>
    dsimp only
    have hempty : formKey [] ≠ "arg" := by decide +kernel
    rw [List.count_eq_zero, queryKeys]
    simp only [Option.mem_def, Option.some.injEq, exists_eq_left', List.mem_map, List.mem_filter, not_iff_not]
    constructor
    · rintro ⟨pair, ⟨hpair, -⟩, hkey⟩
      exact ⟨pair, hpair, hkey⟩
    · rintro ⟨pair, hpair, hkey⟩
      refine ⟨pair, ⟨hpair, decide_eq_true ?_⟩, hkey⟩
      rintro rfl
      exact hempty hkey

/-! ## Calls -/

/-- The method is one of the route. -/
def Request.Asks (q : Request) : Prop := q.method = "GET" ∨ q.method = "HEAD"

theorem mem_callMethods_iff : q.method ∈ callMethods ↔ q.Asks := by
  simp [callMethods, Request.Asks]

/-- The request runs a function. -/
structure Request.Invokes (q : Request) (f : DemoFunction) : Prop where
  asks : q.Asks
  named : q.Addresses f.name
  bare : ¬ q.target.HasArgument

/-- The answer to a request of the demonstration plane, with what every response to it is given. -/
def labelled (q : Request) (x : Exchange) : Exchange :=
  x.mapResponse fun resp => (resp.identified q).forMethod q.method

theorem demo_of_addresses {name : String} (hm : q.Asks) (h : q.Addresses name) (r : Registry) (d : Draws) :
    demo r d q = labelled q (callNamed (Trail.start r d) name (argumentCount q.target)) := by
  obtain ⟨segment, hsegment, hdecode⟩ := addresses_iff.1 h
  rw [demo, hsegment]
  dsimp only
  rw [if_pos (mem_callMethods_iff.2 hm), hdecode]
  rfl

/-- A request that calls nothing leaves nothing. -/
theorem trail_demo_of_not_addresses (h : q.Asks → ∀ name, ¬ q.Addresses name) (r : Registry) (d : Draws) :
    (demo r d q).trail = Trail.start r d := by
  unfold demo
  dsimp only
  rw [trail_mapResponse]
  split
  · rfl
  · next segment hsegment =>
    split
    · next hm =>
      split
      · rfl
      · next name hdecode =>
        exact absurd (addresses_iff.2 ⟨segment, hsegment, hdecode⟩) (h (mem_callMethods_iff.1 hm) name)
    · rfl

theorem callNamed_unknown {name : String} (h : ∀ f : DemoFunction, f.name ≠ name) (t : Trail) (arguments : Nat) :
    callNamed t name arguments = .reply t (.refused (.unknownFunction name)) := by
  have hnone : DemoFunction.named? name = none := by
    refine List.find?_eq_none.2 fun f _ => ?_
    rw [beq_iff_eq]
    exact h f
  rw [callNamed, hnone]

theorem refused_unknownFunction (name : String) :
    Response.refused (.unknownFunction name) = .text 400 ("function " ++ name ++ " does not exist\n") :=
  congrArg (Response.text 400) String.append_assoc

theorem callNamed_arguments (f : DemoFunction) {arguments : Nat} (h : arguments ≠ 0) (t : Trail) :
    callNamed t f.name arguments = .reply t (.refused (.wrongArity f)) := by
  have harity : arguments ≠ f.arity := by cases f <;> exact h
  rw [callNamed, named?_name]
  exact if_neg harity

theorem trail_callNamed (f : DemoFunction) (t : Trail) : (callNamed t f.name 0).trail = (f.call t).2 := by
  have harity : 0 = f.arity := by cases f <;> rfl
  rw [callNamed, named?_name]
  dsimp only
  rw [if_pos harity]
  split <;> next h => simp [h, Exchange.reply]

/-- A request that runs a function leaves what the hits of the function leave: they are counted on the
failpoint of the function if that has a term, which stays, and no other failpoint changes. A request that runs
no function leaves nothing. Of those, one that calls what is no function is refused for that, whatever its
query is, and only one that calls a function is refused for an argument. -/
theorem demo_reaches (r : Registry) (h : r.Reachable) (d : Draws) (q : Request) :
    (∀ f, q.Invokes f → (demo r d q).trail = (f.call (Trail.start r d)).2 ∧
      ∃ k, 1 ≤ k ∧ k ≤ 25 ∧ (f ≠ .labels → k = 1) ∧
        (Trail.start r d).Accounts f.failpoint k (demo r d q).trail) ∧
    ((∀ f, ¬ q.Invokes f) → (demo r d q).trail = Trail.start r d) ∧
    (q.Asks → ∀ name, q.Addresses name → (∀ f : DemoFunction, f.name ≠ name) → (demo r d q).answer =
      .response (((Response.text 400 ("function " ++ name ++ " does not exist\n")).identified q).forMethod q.method)) ∧
    (q.Asks → ∀ f : DemoFunction, q.Addresses f.name → q.target.HasArgument → (demo r d q).answer =
      .response (((Response.text 400 ("wrong number of arguments for function " ++ f.name ++ "\n")).identified
        q).forMethod q.method)) := by
  refine ⟨?runs, ?leaves, ?unknown, ?arguments⟩
  case runs =>
    intro f hf
    have hnone : argumentCount q.target = 0 := argumentCount_eq_zero_iff.2 hf.bare
    have htrail : (demo r d q).trail = (f.call (Trail.start r d)).2 := by
      rw [demo_of_addresses hf.asks hf.named, labelled, trail_mapResponse, hnone, trail_callNamed]
    refine ⟨htrail, ?_⟩
    rw [htrail]
    exact f.accounts_call h.nodup
  case leaves =>
    intro hno
    by_cases hcalls : q.Asks ∧ ∃ name, q.Addresses name
    · obtain ⟨hm, name, hname⟩ := hcalls
      rw [demo_of_addresses hm hname, labelled, trail_mapResponse]
      by_cases hknown : ∃ f : DemoFunction, f.name = name
      · obtain ⟨f, rfl⟩ := hknown
        have hargument : argumentCount q.target ≠ 0 := by
          intro hzero
          exact hno f ⟨hm, hname, argumentCount_eq_zero_iff.1 hzero⟩
        rw [callNamed_arguments f hargument]
        rfl
      · rw [callNamed_unknown (not_exists.1 hknown)]
        rfl
    · exact trail_demo_of_not_addresses (fun hm name hname => hcalls ⟨hm, name, hname⟩) r d
  case unknown =>
    intro hm name hname hunknown
    rw [demo_of_addresses hm hname, callNamed_unknown hunknown, refused_unknownFunction]
    rfl
  case arguments =>
    intro hm f hname hargument
    have hmore : argumentCount q.target ≠ 0 := fun hzero => argumentCount_eq_zero_iff.1 hzero hargument
    rw [demo_of_addresses hm hname, callNamed_arguments f hmore]
    rfl

/-- A call with some letters of the name of its function encoded, and with keys that look like that of an
argument. -/
def spelledCall : Request :=
  ⟨"HEAD", ⟨"/call/%45xampleLabels%46unc".toList, some "args=1&&=arg&Arg&arg+".toList⟩, none, none, []⟩

/-- The same call with an argument whose key is encoded. -/
def arguedCall : Request :=
  ⟨"GET", ⟨"/call/%45xampleLabels%46unc".toList, some "args=1&%61r%67".toList⟩, none, none, []⟩

/-- A call of no function with an argument. -/
def strayCall : Request := ⟨"GET", ⟨"/call/Nope".toList, some "arg=1".toList⟩, none, none, []⟩

/-- The first of these calls takes its hits, and the others take none. -/
theorem demo_reaches_spelledCall : DemoFunction.staged.registry.Reachable ∧
    (∃ k, 1 ≤ k ∧ k ≤ 25 ∧ (Trail.start DemoFunction.staged.registry (.constant .zero)).Accounts "ExampleLabels" k
      (demo DemoFunction.staged.registry (.constant .zero) spelledCall).trail) ∧
    (demo DemoFunction.staged.registry (.constant .zero) arguedCall).trail.registry = DemoFunction.staged.registry ∧
    (demo DemoFunction.staged.registry (.constant .zero) strayCall).answer =
      .response ((Response.text 400 "function Nope does not exist\n").identified strayCall) := by
  have hnew : Registry.ofNames ["ExampleLabels"] = .ok DemoFunction.labelsOnly := by decide +kernel
  have hreach : DemoFunction.staged.registry.Reachable := ⟨_, _, _, _, hnew, rfl⟩
  have hspelled : spelledCall.Addresses DemoFunction.labels.name :=
    addresses_iff.2 ⟨"%45xampleLabels%46unc".toList, by decide +kernel, by decide +kernel⟩
  have hbare : ¬ spelledCall.target.HasArgument := argumentCount_eq_zero_iff.1 (by decide +kernel)
  have hargument : arguedCall.target.HasArgument := by
    by_contra hno
    exact absurd (argumentCount_eq_zero_iff.2 hno) (by decide +kernel)
  have hstray : strayCall.Addresses "Nope" := addresses_iff.2 ⟨"Nope".toList, by decide +kernel, by decide +kernel⟩
  obtain ⟨hruns, -, -, -⟩ := demo_reaches _ hreach (.constant .zero) spelledCall
  obtain ⟨-, hleaves, -, -⟩ := demo_reaches _ hreach (.constant .zero) arguedCall
  obtain ⟨-, -, hunknown, -⟩ := demo_reaches _ hreach (.constant .zero) strayCall
  obtain ⟨-, k, hleast, hmost, -, haccounts⟩ := hruns .labels ⟨.inr rfl, hspelled, hbare⟩
  refine ⟨hreach, ⟨k, hleast, hmost, haccounts⟩, ?_, ?_⟩
  · rw [hleaves fun f hf => hf.bare hargument]
    rfl
  · exact hunknown (.inl rfl) "Nope" hstray fun f => by cases f <;> decide

end Http

end FaultInjection
