import FaultInjection.Proofs.Http.Control
import FaultInjection.Proofs.Text.Utf8

/-!
# A control request changes all that it says, or nothing

A response other than 204 leaves the registry as it was, but for a bulk text that was carried out in
part (`unchanged_or_partial`), and a request that asks changes nothing (`trail_of_reading`). A term that
is put under a name is read back byte by byte, by whatever spelling of the name (`PutOutcome`);
`DeleteOutcome` is the same for a name that is disabled. `control_atomic` has both for every request.
-/

namespace FaultInjection

open Text

namespace Text.Utf8

theorem bytes_append (s s' : String) : bytes (s ++ s') = bytes s ++ bytes s' := by
  rw [bytes_eq_encode, String.toList_append, bytes_eq_encode, bytes_eq_encode]
  exact List.flatMap_append

end Text.Utf8

namespace Registry

variable {r : Registry} {n : String} {f : Failpoint}

theorem get_of_none (h : r.find? n = none) : r.get n = .error .notFound := by
  rw [get, lookup_of_none h]
  rfl

theorem get_of_some (h : r.find? n = some f) : r.get n = .ok f.snapshot := by
  rw [get, lookup_of_some h]
  rfl

theorem term_eq (h : r.find? n = some f) : r.term n = f.term := by
  rw [term, lookup_of_some h]
  rfl

theorem count_eq (h : r.find? n = some f) : r.count n = f.count := by
  rw [count, lookup_of_some h]
  rfl

end Registry

namespace Http

variable {limit : Option Nat} {r : Registry} {d : Draws} {q : Request} {n : String}

/-! ## Requests on a name -/

/-- A path that leads to the failpoint `n`: one segment in some spelling, other than the reserved word as
it stands. -/
def NamePath (path : List Char) (n : String) : Prop :=
  ∃ segment, Spells segment n ∧ segment ≠ [] ∧ segment ≠ Name.reservedWord.toList ∧ path = '/' :: segment

/-- A request that reads what is found under `n`, in some spelling, with a suffix to its path. -/
structure Request.Reads (q : Request) (n : String) (suffix : List Char) : Prop where
  method : q.method = "GET"
  path : ∃ segment, Spells segment n ∧ q.target.path = '/' :: (segment ++ suffix)

/-- The body is the text of a term. -/
def Request.Carries (q : Request) (t : Term) : Prop :=
  ∃ spec, Utf8.decode? q.body = some spec ∧ Term.parse spec = .ok t

/-- The response has this status and these bytes for its body. -/
def Exchange.Answers (x : Exchange) (status : Nat) (body : List UInt8) : Prop :=
  ∃ resp, x.answer = .response resp ∧ resp.status = status ∧ Utf8.bytes resp.body = body

theorem answers_changed_ok {refuse : RegistryError → RequestError} {c : Change} (t : Trail)
    (h : c.result = .ok ()) : (changed t refuse c).Answers 204 [] := by
  refine ⟨Response.empty 204, ?_, rfl, rfl⟩
  rw [changed, h]
  rfl

theorem answers_changed_error {refuse : RegistryError → RequestError} {c : Change} {e : RegistryError}
    (t : Trail) (h : c.result = .error e) :
    (changed t refuse c).Answers (refuse e).status (Utf8.bytes (refuse e).body) := by
  refine ⟨.refused (refuse e), ?_, rfl, rfl⟩
  rw [changed, h]
  rfl

/-- The identifier is no part of the body, and only HEAD drops the body. -/
theorem Exchange.Answers.labelled {x : Exchange} {status : Nat} {body : List UInt8}
    (h : x.Answers status body) (hm : q.method ≠ "HEAD") :
    (x.mapResponse fun resp => (resp.identified q).forMethod q.method).Answers status body := by
  obtain ⟨resp, hresp, hstatus, hbody⟩ := h
  refine ⟨resp.identified q, ?_, hstatus, hbody⟩
  rw [mapResponse, hresp]
  simp only [Response.forMethod, if_neg hm]

/-- A request on the path of a name makes the call of its method on that name. -/
theorem control_of_namePath (hpath : NamePath q.target.path n) (hadmitted : q.Admitted limit)
    (hm : q.method ∈ ["GET", "HEAD", "PUT", "DELETE"]) : control limit r d q =
      ((ControlCall.onName q.method n).run (Trail.start r d) limit q).mapResponse
        fun resp => (resp.identified q).forMethod q.method := by
  obtain ⟨segment, hspells, hne, hword, hpath⟩ := hpath
  have hroute : ControlRoute.ofPath? q.target.path = some (.single segment) := by
    rw [hpath, ofPath?_of_segment hspells.whole hne, if_neg hword]
  have hcall : (ControlRoute.single segment).call? q.method = some (.onName q.method n) := by
    rw [ControlRoute.call?, hspells.denotes]
    rfl
  exact control_of_call hadmitted hroute hm hcall

theorem Request.Reads.namePath (h : q.Reads n []) (hn : n ∈ r.names) : NamePath q.target.path n := by
  obtain ⟨segment, hspells, hpath⟩ := h.path
  obtain ⟨name, rfl⟩ := Registry.exists_name hn
  rw [List.append_nil] at hpath
  exact ⟨segment, hspells, hspells.ne.1, hspells.ne.2, hpath⟩

theorem control_get (h : q.Reads n []) (hadmitted : q.Admitted limit) (hn : n ∈ r.names) :
    control limit r d q = ((ControlCall.get n).run (Trail.start r d) limit q).mapResponse
      fun resp => (resp.identified q).forMethod q.method := by
  rw [control_of_namePath (h.namePath hn) hadmitted (by simp [h.method]), h.method]
  rfl

theorem control_count (h : q.Reads n "/count".toList) (hadmitted : q.Admitted limit) :
    control limit r d q = ((ControlCall.count n).run (Trail.start r d) limit q).mapResponse
      fun resp => (resp.identified q).forMethod q.method := by
  obtain ⟨segment, hspells, hpath⟩ := h.path
  have hsuffix : "/count".toList = '/' :: "count".toList := by decide
  have hroute : ControlRoute.ofPath? q.target.path = some (.count segment) := by
    rw [hpath, hsuffix, ofPath?_of_count hspells.whole]
  have hcall : (ControlRoute.count segment).call? q.method = some (.count n) := by
    rw [ControlRoute.call?, hspells.denotes]
    rfl
  exact control_of_call hadmitted hroute (by simp [h.method, ControlRoute.methods]) hcall

/-! ## What is read -/

section Reading

variable {f : Failpoint}

/-- A failpoint with a term shows its text in a line, and its hits. -/
theorem reads_of_some {t : Term} (hf : r.find? n = some f) (ht : f.installed = some t)
    (hadmitted : q.Admitted limit) :
    (q.Reads n [] → (control limit r d q).Answers 200 (Utf8.bytes t.display ++ [0x0A])) ∧
    (q.Reads n "/count".toList →
      (control limit r d q).Answers 200 (Utf8.bytes (String.ofList (Decimal.naturalDigits f.hits)))) := by
  have hn : n ∈ r.names := Registry.mem_names_of_find? hf
  constructor
  · intro h
    rw [control_get h hadmitted hn]
    refine Exchange.Answers.labelled ?_ (by simp [h.method])
    have hterm : (Trail.start r d).registry.term n = .ok t.display :=
      (Registry.term_eq hf).trans (Failpoint.term_of_some ht)
    rw [ControlCall.run, hterm]
    exact ⟨_, rfl, rfl, Utf8.bytes_append _ "\n"⟩
  · intro h
    rw [control_count h hadmitted]
    refine Exchange.Answers.labelled ?_ (by simp [h.method])
    have hcount : (Trail.start r d).registry.count n = .ok f.hits :=
      (Registry.count_eq hf).trans (Failpoint.count_of_some ht)
    rw [ControlCall.run, hcount]
    exact ⟨_, rfl, rfl, rfl⟩

/-- A disabled failpoint has no text to show, and no hits. -/
theorem reads_of_none (hf : r.find? n = some f) (hnone : f.installed = none)
    (hadmitted : q.Admitted limit) :
    (q.Reads n [] → (control limit r d q).Answers 404
      (Utf8.bytes "failed to GET: failpoint: failpoint is disabled\n\n")) ∧
    (q.Reads n "/count".toList → (control limit r d q).Answers 500
      (Utf8.bytes "failed to GET: failpoint: failpoint is disabled\n")) := by
  have hn : n ∈ r.names := Registry.mem_names_of_find? hf
  constructor
  · intro h
    rw [control_get h hadmitted hn]
    refine Exchange.Answers.labelled ?_ (by simp [h.method])
    have hterm : (Trail.start r d).registry.term n = .error .disabled :=
      (Registry.term_eq hf).trans (Failpoint.term_of_none hnone)
    rw [ControlCall.run, hterm]
    exact ⟨_, rfl, rfl, by decide +kernel⟩
  · intro h
    rw [control_count h hadmitted]
    refine Exchange.Answers.labelled ?_ (by simp [h.method])
    have hcount : (Trail.start r d).registry.count n = .error .disabled :=
      (Registry.count_eq hf).trans (Failpoint.count_of_none hnone)
    rw [ControlCall.run, hcount]
    exact ⟨_, rfl, rfl, by decide +kernel⟩

end Reading

/-! ## What a refusal leaves -/

/-- A term that could not be set leaves the registry alone. -/
theorem registry_of_set_error {spec : String} {e : RegistryError} (h : (r.set n spec).result = .error e) :
    (r.set n spec).registry = r := by
  cases hf : r.find? n with
  | none => rw [Registry.set_of_none hf]
  | some f =>
    cases ht : Term.parse spec with
    | ok t => simp [Registry.set_of_parse hf ht] at h
    | error fault => rw [Registry.set_of_fault hf ht]

/-- A name that could not be disabled leaves the registry alone. -/
theorem registry_of_deactivate_error {e : RegistryError} (h : (r.deactivate n).result = .error e) :
    (r.deactivate n).registry = r := by
  cases hf : r.find? n with
  | none => rw [Registry.deactivate_of_none hf]
  | some f => simp [Registry.deactivate_of_some hf] at h

/-- A bulk text that was read but not carried out in full. -/
structure PartialBulk (q : Request) (resp : Response) : Prop where
  method : q.method = "PUT"
  path : q.target.path = "/failpoints".toList
  text : ∃ text, Utf8.decode? q.body = some text
  status : resp.status = 400

theorem unchanged_or_partial (limit : Option Nat) (r : Registry) (d : Draws) (q : Request) :
    ∃ resp, (control limit r d q).answer = .response resp ∧
      (resp.status ≠ 204 → ¬ PartialBulk q resp → (control limit r d q).trail.registry = r) := by
  rcases control_cases limit r d q with ⟨resp, -, h⟩ | ⟨c, refuse, hreq, h⟩
  · rw [h]
    exact ⟨resp, rfl, fun _ _ => rfl⟩
  · rw [h]
    refine ⟨(changeResponse refuse c.result).identified q, rfl, fun hstatus hpartial => ?_⟩
    show c.registry = r
    cases hresult : c.result with
    | ok _ =>
      rw [hresult] at hstatus
      exact absurd rfl hstatus
    | error e =>
      cases hreq with
      | set _ _ => exact registry_of_set_error hresult
      | deactivate _ => exact registry_of_deactivate_error hresult
      | assign hmethod hpath htext =>
        refine absurd ⟨hmethod, hpath.trans (by decide), ⟨_, htext⟩, ?_⟩ hpartial
        rw [hresult]
        rfl

/-- A request that asks changes nothing and leaves nothing behind. -/
theorem trail_of_reading (limit : Option Nat) (r : Registry) (d : Draws)
    (hm : q.method = "GET" ∨ q.method = "HEAD") : (control limit r d q).trail = Trail.start r d := by
  rcases control_cases limit r d q with ⟨resp, -, h⟩ | ⟨c, refuse, hreq, -⟩
  · rw [h]
    rfl
  · exact (hm.elim hreq.method_ne.1 hreq.method_ne.2).elim

/-! ## What a change leaves -/

/-- What becomes of a term that is put under the name `n`. -/
structure PutOutcome (limit : Option Nat) (r : Registry) (q : Request) (n : String)
    (x : Exchange) : Prop where
  unknown : n ∉ r.names →
    x.Answers 404 (Utf8.bytes "fail to set failpoint: failpoint: failpoint does not exist\n")
  refused : n ∈ r.names → (∀ t, ¬ q.Carries t) →
    x.Answers 400 (Utf8.bytes "fail to set failpoint: failpoint: could not parse terms\n")
  installed : n ∈ r.names → ∀ t, q.Carries t →
    x.Answers 204 [] ∧ x.trail.registry = r.modify n (·.install t)
  echoed : n ∈ r.names → ∀ t, q.Carries t → ∀ d' (q' : Request), q'.Admitted limit →
    (q'.Reads n [] → (control limit x.trail.registry d' q').Answers 200 (q.body ++ [0x0A])) ∧
    (q'.Reads n "/count".toList → (control limit x.trail.registry d' q').Answers 200 (Utf8.bytes "0"))

/-- What becomes of the name `n` when it is disabled. -/
structure DeleteOutcome (limit : Option Nat) (r : Registry) (n : String) (x : Exchange) : Prop where
  unknown : n ∉ r.names →
    x.Answers 404 (Utf8.bytes "failed to delete failpoint: failpoint: failpoint does not exist\n")
  cleared : n ∈ r.names → x.Answers 204 [] ∧ x.trail.registry = r.modify n Failpoint.clear
  silent : n ∈ r.names → ∀ d' (q' : Request), q'.Admitted limit →
    (q'.Reads n [] → (control limit x.trail.registry d' q').Answers 404
      (Utf8.bytes "failed to GET: failpoint: failpoint is disabled\n\n")) ∧
    (q'.Reads n "/count".toList → (control limit x.trail.registry d' q').Answers 500
      (Utf8.bytes "failed to GET: failpoint: failpoint is disabled\n"))

section Put

variable {f : Failpoint} {t : Term}

theorem control_put (hpath : NamePath q.target.path n) (hm : q.method = "PUT") (hfits : q.Fits limit) :
    control limit r d q = (putTerm (Trail.start r d) n q.body).mapResponse
      fun resp => (resp.identified q).forMethod q.method := by
  rw [control_of_namePath hpath hfits.toAdmitted (by simp [hm]), ControlCall.onName, if_pos hm,
    ControlCall.run, if_neg (by simp [hfits.exceedsRead])]

/-- The name is looked up before the body is read. -/
theorem answers_putTerm_unknown (hf : r.find? n = none) (body : List UInt8) :
    (putTerm (Trail.start r d) n body).Answers 404
      (Utf8.bytes "fail to set failpoint: failpoint: failpoint does not exist\n") := by
  have hget : (Trail.start r d).registry.get n = .error .notFound := Registry.get_of_none hf
  rw [putTerm, hget]
  exact ⟨_, rfl, rfl, rfl⟩

/-- A body that is no text and a text that is no term are refused alike. -/
theorem answers_putTerm_refused (hf : r.find? n = some f) (hbad : ∀ t, ¬ q.Carries t) :
    (putTerm (Trail.start r d) n q.body).Answers 400
      (Utf8.bytes "fail to set failpoint: failpoint: could not parse terms\n") := by
  have hget : (Trail.start r d).registry.get n = .ok f.snapshot := Registry.get_of_some hf
  rw [putTerm, hget]
  cases hspec : Utf8.decode? q.body with
  | none => exact ⟨_, rfl, rfl, rfl⟩
  | some spec =>
    cases ht : Term.parse spec with
    | ok t => exact absurd ⟨spec, hspec, ht⟩ (hbad t)
    | error fault =>
      have hset : ((Trail.start r d).registry.set n spec).result = .error (.parse fault.toInputError) :=
        congrArg Change.result (Registry.set_of_fault hf ht)
      exact answers_changed_error _ hset

theorem putTerm_of_carries (hf : r.find? n = some f) (ht : q.Carries t) :
    (putTerm (Trail.start r d) n q.body).Answers 204 [] ∧
      (putTerm (Trail.start r d) n q.body).trail.registry = r.modify n (·.install t) := by
  obtain ⟨spec, hspec, hparse⟩ := ht
  have hget : (Trail.start r d).registry.get n = .ok f.snapshot := Registry.get_of_some hf
  have hset : (Trail.start r d).registry.set n spec =
      ⟨r.modify n (·.install t), [Event.enabled n spec], .ok ()⟩ := Registry.set_of_parse hf hparse
  rw [putTerm, hget, hspec]
  dsimp only
  rw [hset]
  exact ⟨answers_changed_ok _ rfl, rfl⟩

/-- The text of a term is the body that carried it, byte by byte. -/
theorem Request.Carries.bytes_display (h : q.Carries t) : Utf8.bytes t.display = q.body := by
  obtain ⟨spec, hspec, hparse⟩ := h
  rw [Term.display, (chainText_of_parse hparse).1]
  exact Utf8.bytes_of_decode? hspec

theorem reads_of_put (hf : r.find? n = some f) (ht : q.Carries t) {q' : Request}
    (hadmitted : q'.Admitted limit) :
    (q'.Reads n [] → (control limit (r.modify n (·.install t)) d q').Answers 200 (q.body ++ [0x0A])) ∧
    (q'.Reads n "/count".toList →
      (control limit (r.modify n (·.install t)) d q').Answers 200 (Utf8.bytes "0")) := by
  have hfind : (r.modify n (·.install t)).find? n = some (f.install t) := by
    rw [Registry.find?_modify_of_find? (Registry.keepsName_install t) hf, if_pos rfl]
  have hcount : String.ofList (Decimal.naturalDigits 0) = "0" := by decide
  rw [← ht.bytes_display, ← hcount]
  exact reads_of_some hfind rfl hadmitted

theorem putOutcome (hpath : NamePath q.target.path n) (hm : q.method = "PUT") (hfits : q.Fits limit) :
    PutOutcome limit r q n (control limit r d q) := by
  have hhead : q.method ≠ "HEAD" := by simp [hm]
  rw [control_put hpath hm hfits]
  refine ⟨?unknown, ?refused, ?installed, ?echoed⟩
  case unknown =>
    intro hn
    exact (answers_putTerm_unknown (Registry.find?_eq_none_iff.2 hn) q.body).labelled hhead
  case refused =>
    intro hn hbad
    obtain ⟨f, hf⟩ := Registry.exists_find? hn
    exact (answers_putTerm_refused hf hbad).labelled hhead
  case installed =>
    intro hn t ht
    obtain ⟨f, hf⟩ := Registry.exists_find? hn
    obtain ⟨hanswer, hregistry⟩ := putTerm_of_carries (d := d) hf ht
    exact ⟨hanswer.labelled hhead, (congrArg Trail.registry (trail_mapResponse _ _)).trans hregistry⟩
  case echoed =>
    intro hn t ht d' q' hadmitted
    obtain ⟨f, hf⟩ := Registry.exists_find? hn
    rw [trail_mapResponse, (putTerm_of_carries hf ht).2]
    exact reads_of_put hf ht hadmitted

end Put

section Delete

variable {f : Failpoint}

theorem control_delete (hpath : NamePath q.target.path n) (hm : q.method = "DELETE")
    (hadmitted : q.Admitted limit) : control limit r d q =
      (changed (Trail.start r d) .deactivate (r.deactivate n)).mapResponse
        fun resp => (resp.identified q).forMethod q.method := by
  rw [control_of_namePath hpath hadmitted (by simp [hm]), ControlCall.onName, if_neg (by simp [hm]),
    if_pos hm]
  rfl

theorem reads_of_delete (hf : r.find? n = some f) {q' : Request} (hadmitted : q'.Admitted limit) :
    (q'.Reads n [] → (control limit (r.modify n Failpoint.clear) d q').Answers 404
      (Utf8.bytes "failed to GET: failpoint: failpoint is disabled\n\n")) ∧
    (q'.Reads n "/count".toList → (control limit (r.modify n Failpoint.clear) d q').Answers 500
      (Utf8.bytes "failed to GET: failpoint: failpoint is disabled\n")) := by
  have hfind : (r.modify n Failpoint.clear).find? n = some f.clear := by
    rw [Registry.find?_modify_of_find? Registry.keepsName_clear hf, if_pos rfl]
  exact reads_of_none hfind rfl hadmitted

theorem deleteOutcome (hpath : NamePath q.target.path n) (hm : q.method = "DELETE")
    (hadmitted : q.Admitted limit) : DeleteOutcome limit r n (control limit r d q) := by
  have hhead : q.method ≠ "HEAD" := by simp [hm]
  rw [control_delete hpath hm hadmitted]
  refine ⟨?unknown, ?cleared, ?silent⟩
  case unknown =>
    intro hn
    have hresult : (r.deactivate n).result = .error .notFound :=
      congrArg Change.result (Registry.deactivate_of_none (Registry.find?_eq_none_iff.2 hn))
    exact (answers_changed_error _ hresult).labelled hhead
  case cleared =>
    intro hn
    obtain ⟨f, hf⟩ := Registry.exists_find? hn
    rw [trail_mapResponse, Registry.deactivate_of_some hf]
    exact ⟨(answers_changed_ok _ rfl).labelled hhead, rfl⟩
  case silent =>
    intro hn d' q' hadmitted'
    obtain ⟨f, hf⟩ := Registry.exists_find? hn
    rw [trail_mapResponse, Registry.deactivate_of_some hf]
    exact reads_of_delete hf hadmitted'

end Delete

/-- A request to the control plane is answered, and changes nothing unless it answers 204 or carries out a
bulk text in part; a request that asks changes nothing. What is put or deleted under a name, in any
spelling, is what is read there afterwards, in any other. -/
theorem control_atomic (limit : Option Nat) (r : Registry) (d : Draws) (q : Request) :
    (∃ resp, (control limit r d q).answer = .response resp ∧
      (resp.status ≠ 204 → ¬ PartialBulk q resp → (control limit r d q).trail.registry = r)) ∧
    (q.method = "GET" ∨ q.method = "HEAD" → (control limit r d q).trail = Trail.start r d) ∧
    (∀ n, NamePath q.target.path n →
      (q.method = "PUT" → q.Fits limit → PutOutcome limit r q n (control limit r d q)) ∧
      (q.method = "DELETE" → q.Admitted limit → DeleteOutcome limit r n (control limit r d q))) := by
  refine ⟨unchanged_or_partial limit r d q, trail_of_reading limit r d, fun n hpath => ?_⟩
  constructor
  · intro hm hfits
    exact putOutcome hpath hm hfits
  · intro hm hadmitted
    exact deleteOutcome hpath hm hadmitted

/-- A term for the name `a`, written in percent signs. -/
def encodedPut : Request := ⟨"PUT", ⟨"/%61".toList, none⟩, none, some 7, Utf8.bytes "2*print"⟩

/-- A request to disable the name `a`. -/
def plainDelete : Request := ⟨"DELETE", ⟨"/a".toList, none⟩, none, none, []⟩

/-- A request for what stands under the name `a`. -/
def plainGet : Request := ⟨"GET", ⟨"/a".toList, none⟩, none, none, []⟩

/-- What was put under one spelling of a name is read under another, until the name is disabled. -/
theorem control_atomic_encodedPut :
    (control (some 16) twoNames (.constant .zero) encodedPut).Answers 204 [] ∧
    (control (some 16) (control (some 16) twoNames (.constant .zero) encodedPut).trail.registry
      (.constant .zero) plainGet).Answers 200 (Utf8.bytes "2*print\n") ∧
    (control (some 16) (control (some 16) twoNames (.constant .zero) plainDelete).trail.registry
      (.constant .zero) plainGet).Answers 404
        (Utf8.bytes "failed to GET: failpoint: failpoint is disabled\n\n") := by
  have hname : "a" ∈ twoNames.names := by decide +kernel
  have hget : plainGet.Admitted (some 16) := ⟨fun _ _ length hlength => by cases hlength⟩
  have hreads : plainGet.Reads "a" [] := ⟨rfl, "a".toList, ⟨by decide, by decide +kernel⟩, rfl⟩
  have hput : PutOutcome (some 16) twoNames encodedPut "a"
      (control (some 16) twoNames (.constant .zero) encodedPut) := by
    have hpath : NamePath encodedPut.target.path "a" :=
      ⟨"%61".toList, ⟨by decide, by decide +kernel⟩, by decide, by decide, rfl⟩
    have hfits : encodedPut.Fits (some 16) := by
      refine ⟨⟨fun most hmost length hlength => ?_⟩, fun most hmost => ?_, by decide +kernel⟩
      · obtain rfl := Option.some.inj hmost
        obtain rfl := Option.some.inj hlength
        decide
      · obtain rfl := Option.some.inj hmost
        decide +kernel
    exact ((control_atomic (some 16) twoNames (.constant .zero) encodedPut).2.2 "a" hpath).1 rfl hfits
  have hdelete : DeleteOutcome (some 16) twoNames "a"
      (control (some 16) twoNames (.constant .zero) plainDelete) := by
    have hpath : NamePath plainDelete.target.path "a" :=
      ⟨"a".toList, ⟨by decide, by decide +kernel⟩, by decide, by decide, rfl⟩
    have hadmitted : plainDelete.Admitted (some 16) := ⟨fun _ _ length hlength => by cases hlength⟩
    exact ((control_atomic (some 16) twoNames (.constant .zero) plainDelete).2.2 "a" hpath).2 rfl hadmitted
  have hcarries : encodedPut.Carries ⟨"2*print", [⟨none, some 2, .print none⟩]⟩ :=
    ⟨"2*print", by decide +kernel, by decide +kernel⟩
  have hbytes : Utf8.bytes "2*print\n" = encodedPut.body ++ [0x0A] := by decide +kernel
  rw [hbytes]
  exact ⟨(hput.installed hname _ hcarries).1, (hput.echoed hname _ hcarries _ _ hget).1 hreads,
    (hdelete.silent hname _ _ hget).1 hreads⟩

end Http

end FaultInjection
