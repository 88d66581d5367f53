import FaultInjection.Http.DemoPlane
import FaultInjection.Proofs.Http.Atomicity
import FaultInjection.Proofs.Json.Literal
import FaultInjection.Proofs.Registry.Injection
import FaultInjection.Proofs.Term.Display

/-!
# A returned value on its way to the client

A literal comes in as the text of a term, with the escapes of terms, and goes out as JSON, with the escapes
of JSON. In between the control plane installs the term and the demonstration plane takes a hit on it.
What a client reads out of the answer by the grammar of JSON is the literal that was put:
`returned_value_survives`.
-/

namespace FaultInjection.Http

open Text

variable {limit : Option Nat} {r : Registry} {d : Draws} {q : Request} {n : String}

/-! ## What is put -/

theorem not_answers_of_status {x : Exchange} {resp : Response} (h : x.answer = .response resp)
    (hstatus : resp.status ≠ 204) (body : List UInt8) : ¬ x.Answers 204 body := by
  rintro ⟨resp', hresp', hstatus', -⟩
  obtain rfl := Answer.response.inj (h.symm.trans hresp')
  exact hstatus hstatus'

/-- A term that is put is installed exactly if its body keeps within the limits. -/
theorem put_answers_iff (hpath : NamePath q.target.path n) (hm : q.method = "PUT") (hn : n ∈ r.names) {t : Term}
    (ht : q.Carries t) : (control limit r d q).Answers 204 [] ↔ q.Fits limit := by
  constructor
  · intro hanswer
    have hdeclared : exceedsDeclared limit q = false := by
      by_contra hlong
      have hresp : (control limit r d q).answer = .response (finished q declaredTooLarge) := by
        rw [control_eq, if_pos (by simpa using hlong)]
        rfl
      refine not_answers_of_status hresp ?_ [] hanswer
      rw [status_finished]
      decide
    refine Request.fits_of_not_exceeds hdeclared ?_
    by_contra hlong
    have hadmitted := exceedsDeclared_eq_false_iff.1 hdeclared
    have hresp : (control limit r d q).answer = .response (readTooLarge.identified q) := by
      rw [control_of_namePath hpath hadmitted (by simp [hm]), hm, ControlCall.onName, if_pos rfl, ControlCall.run,
        if_pos (by simpa using hlong)]
      rfl
    exact not_answers_of_status hresp (by simp [readTooLarge, Response.identified, Response.text]) [] hanswer
  · exact fun hfits => ((putOutcome hpath hm hfits).installed hn t ht).1

/-! ## What is called -/

/-- A call of a demonstration function with as many arguments as it takes. -/
structure Request.Calls (q : Request) (f : DemoFunction) : Prop where
  method : q.method = "GET"
  path : ∃ segment, calledSegment? q.target.path = some segment ∧ decodeSegment? segment = some f.name
  arguments : argumentCount q.target = f.arity

theorem named?_name (f : DemoFunction) : DemoFunction.named? f.name = some f := by
  cases f <;> decide

/-- The value of a function is the answer to its call. -/
theorem demo_of_calls {f : DemoFunction} (h : q.Calls f) {l : Literal} {t : Trail}
    (hcall : f.call (Trail.start r d) = (.ok l, t)) : (demo r d q).Answers 200 (Utf8.bytes l.json) := by
  obtain ⟨segment, hsegment, hdecode⟩ := h.path
  have hnamed : callNamed (Trail.start r d) f.name (argumentCount q.target) = .reply t (.value l) := by
    rw [callNamed, named?_name]
    dsimp only
    rw [if_pos h.arguments, hcall]
  rw [demo, hsegment]
  dsimp only
  rw [if_pos (by simp [h.method, callMethods]), hdecode]
  dsimp only
  rw [hnamed]
  exact Exchange.Answers.labelled ⟨_, rfl, rfl, rfl⟩ (by simp [h.method])

/-- A failpoint on which a lone return was just installed returns its value. -/
theorem inject_of_return {f : Failpoint} (hf : r.find? n = some f) {t : Term} {value : Option Literal}
    (ht : t.segments = [⟨none, none, .ret value⟩]) (d : Draws) :
    ((r.modify n (·.install t)).inject n d).outcome = .ret value := by
  have hfind : (r.modify n (·.install t)).find? n = some (f.install t) := by
    rw [Registry.find?_modify_of_find? (Registry.keepsName_install t) hf, if_pos rfl]
  have hstart : Position.start t = ⟨0, 0⟩ := by
    rw [Position.start, ht]
    rfl
  have hhit : ((f.install t).hit d).1 = .ok (.ret value) := by
    rw [Failpoint.hit_of_some rfl, Failpoint.install]
    dsimp only
    rw [hstart, Position.advance, ht]
    rfl
  have hselected : (r.modify n (·.install t)).selected n d = .ret value :=
    Registry.selected_of_ok (by rw [Registry.hit_of_some hfind, hhit])
  rw [Registry.inject_eq, hselected]
  rfl

theorem call_plain_of_ret {t : Trail} {l : Literal}
    (h : (t.registry.inject DemoFunction.plain.failpoint t.draws).outcome = .ret (some l)) :
    ∃ t', DemoFunction.plain.call t = (.ok l, t') := by
  rw [DemoFunction.call, Trail.inject, h]
  exact ⟨_, rfl⟩

/-! ## Both together -/

/-- A literal that a term returns is put under the failpoint of the plain function, in any spelling and within
the limits, and the function is called: the answer is a JSON text, and every reading of it denotes the
literal, so no other literal gives the same bytes. -/
theorem returned_value_survives (limit : Option Nat) (r : Registry)
    (hn : DemoFunction.plain.failpoint ∈ r.names) (text : String) (t : Term) (l : Literal)
    (hparse : Term.parse (returning text) = .ok t) (hvalue : t.segments = [⟨none, none, .ret (some l)⟩])
    (d : Draws) (put : Request) (hput : put.method = "PUT")
    (hpath : NamePath put.target.path DemoFunction.plain.failpoint)
    (hbody : put.body = Utf8.bytes (returning text)) (d' : Draws) (get : Request) (hget : get.Calls .plain) :
    ((control limit r d put).Answers 204 [] ↔ put.Fits limit) ∧
    ((control limit r d put).Answers 204 [] →
      (demo (control limit r d put).trail.registry d' get).Answers 200 (Utf8.bytes l.json)) ∧
    (∃ v, Json.JsonText l.json.toList v) ∧ (∀ v, Json.JsonText l.json.toList v → v.Denotes l) ∧
    (∀ l' : Literal, Utf8.bytes l'.json = Utf8.bytes l.json → l' = l) := by
  have hcarries : put.Carries t := ⟨returning text, by rw [hbody, Utf8.decode?_bytes], hparse⟩
  have hfits : (control limit r d put).Answers 204 [] ↔ put.Fits limit := put_answers_iff hpath hput hn hcarries
  refine ⟨hfits, fun hanswer => ?_, l.exists_reading, fun v => Literal.denotes_of_reading, fun l' hbytes => ?_⟩
  · obtain ⟨f, hf⟩ := Registry.exists_find? hn
    have hinstalled := ((putOutcome (d := d) hpath hput (hfits.1 hanswer)).installed hn t hcarries).2
    rw [hinstalled]
    obtain ⟨t', hcall⟩ := call_plain_of_ret (t := Trail.start _ d') (inject_of_return hf hvalue d')
    exact demo_of_calls hget hcall
  · have hread := congrArg Utf8.decode? hbytes
    rw [Utf8.decode?_bytes, Utf8.decode?_bytes] at hread
    exact Literal.json_injective (Option.some.inj hread)

/-- The failpoint of the plain function, disabled. -/
def plainOnly : Registry := ⟨[.disabled ⟨"ExampleString", by decide⟩]⟩

/-- A quote, a backslash and a line break as a term has them, and a control character and a letter beyond
ASCII as they stand. -/
def escapedText : String := "\"\\\"\\\\\\n\x01\u00e9\""

/-- A request that puts this text. -/
def escapedPut : Request :=
  ⟨"PUT", ⟨"/ExampleString".toList, none⟩, none, none, Utf8.bytes (returning escapedText)⟩

/-- A call of the plain function. -/
def plainCall : Request := ⟨"GET", ⟨"/call/ExampleFunc".toList, none⟩, none, none, []⟩

/-- The text comes back in the escapes of JSON. -/
theorem returned_value_survives_escapedText :
    (control none plainOnly (.constant .zero) escapedPut).Answers 204 [] ∧
    (demo (control none plainOnly (.constant .zero) escapedPut).trail.registry (.constant .zero) plainCall).Answers
      200 (Utf8.bytes "\"\\\"\\\\\\n\\u0001\u00e9\"") ∧
    (∀ v, Json.JsonText "\"\\\"\\\\\\n\\u0001\u00e9\"".toList v → v.Denotes (.string "\"\\\n\x01\u00e9")) := by
  have hname : DemoFunction.plain.failpoint ∈ plainOnly.names := by decide +kernel
  have hparse : Term.parse (returning escapedText) = .ok ⟨returning escapedText,
      [⟨none, none, .ret (some (.string "\"\\\n\x01\u00e9"))⟩]⟩ := by decide +kernel
  have hpath : NamePath escapedPut.target.path DemoFunction.plain.failpoint :=
    ⟨"ExampleString".toList, ⟨by decide, by decide +kernel⟩, by decide, by decide, rfl⟩
  have hcall : plainCall.Calls .plain :=
    ⟨rfl, ⟨"ExampleFunc".toList, by decide +kernel, by decide +kernel⟩, by decide +kernel⟩
  have hfits : escapedPut.Fits none :=
    ⟨⟨fun _ hmost => (by cases hmost)⟩, fun _ hmost => (by cases hmost), by decide +kernel⟩
  have hjson : (Literal.string "\"\\\n\x01\u00e9").json = "\"\\\"\\\\\\n\\u0001\u00e9\"" := by decide +kernel
  obtain ⟨hput, hanswer, -, hreadings, -⟩ := returned_value_survives none plainOnly hname escapedText _ _ hparse rfl
    (.constant .zero) escapedPut rfl hpath rfl (.constant .zero) plainCall hcall
  rw [hjson] at hanswer hreadings
  exact ⟨hput.2 hfits, hanswer (hput.2 hfits), hreadings⟩

end FaultInjection.Http
