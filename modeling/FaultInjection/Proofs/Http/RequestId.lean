import FaultInjection.Http.DemoPlane
import FaultInjection.Proofs.Http.Control
import FaultInjection.Proofs.Http.Uuid
import FaultInjection.Proofs.Text.Utf8

/-!
# The identifiers of requests and responses

Every response of a router carries an identifier, whatever became of the request (`exists_requestId_of_response`).
Its text is the canonical form of the identifier that the request gives, or of one made for the request (`Echoed`).
Nothing else of an exchange depends on the identifier, `anonymous_exchange`.
-/

namespace FaultInjection.Http

open Uuid Text

/-! ## The bytes of a header -/

theorem headerText?_eq_some_iff {value : List UInt8} {s : String} :
    headerText? value = some s ↔ value = Utf8.bytes s ∧ ∀ b ∈ value, isTextByte b = true := by
  unfold headerText?
  constructor
  · intro h
    split at h
    · exact ⟨(Utf8.bytes_of_decode? h).symm, List.all_eq_true.1 ‹_›⟩
    · cases h
  · rintro ⟨rfl, htext⟩
    rw [if_pos (List.all_eq_true.2 htext), Utf8.decode?_bytes]

/-- The bytes of visible characters are those characters. -/
theorem visible_of_mem_encode {cs : List Char} (h : ∀ c ∈ cs, Visible c) {b : UInt8} (hb : b ∈ Utf8.encode cs) :
    0x20 < b.toNat ∧ b.toNat < 0x7F := by
  obtain ⟨c, hc, hbyte⟩ := List.mem_flatMap.1 hb
  obtain ⟨hleast, hmost⟩ := h c hc
  rcases Utf8.ascii_or_high c with ⟨-, hone⟩ | ⟨hhigh, -⟩
  · obtain rfl : b = UInt8.ofNat c.toNat := by simpa [hone] using hbyte
    rw [UInt8.toNat_ofNat']
    omega
  · omega

/-! ## The text of an identifier -/

/-- The identifier is of version seven, in the variant that has versions. -/
structure Uuid.VersionSeven (u : Uuid) : Prop where
  version : u.digits[12]? = some 7
  variant : ∃ d : Fin 16, u.digits[16]? = some d ∧ 8 ≤ d.val ∧ d.val < 12

/-- The text that a response carries, where `made` is the identifier made for the request if it gives none. -/
def RequestId.text (made : Uuid) : RequestId → String
  | given u => u.canonical
  | fresh => made.canonical

/-- The bytes of the header spell the identifier. -/
def Gives (header : Option (List UInt8)) (u : Uuid) : Prop :=
  ∃ value : String, header = some (Utf8.bytes value) ∧ Spelling value.toList u

/-- The text is that of a fresh identifier: `made` in canonical form, which shows its version. -/
structure Fresh (made : Uuid) (text : String) : Prop where
  canonical : Canonical text made
  version : text.toList[14]? = some '7'
  variant : ∃ c ∈ ['8', '9', 'a', 'b'], text.toList[19]? = some c

/-- What the text of a response's identifier is to the header of the request. -/
structure Echoed (made : Uuid) (header : Option (List UInt8)) (text : String) : Prop where
  given : ∀ u, Gives header u → Canonical text u
  fresh : (∀ u, ¬ Gives header u) → Fresh made text
  foreign : ∀ value, header = some value → (∃ b ∈ value, b.toNat ≤ 0x20 ∨ 0x7F ≤ b.toNat) → Fresh made text
  sendable : isHeaderValue text = true

variable {made : Uuid} {header : Option (List UInt8)} {text : String} {u : Uuid}

theorem Gives.visible {value : List UInt8} (h : Gives (some value) u) {b : UInt8} (hb : b ∈ value) :
    0x20 < b.toNat ∧ b.toNat < 0x7F := by
  obtain ⟨spelling, hvalue, hspelling⟩ := h
  obtain rfl := Option.some.inj hvalue
  rw [Utf8.bytes_eq_encode] at hb
  exact visible_of_mem_encode hspelling.visible hb

theorem ofBytes_eq_given_iff : RequestId.ofBytes header = .given u ↔ Gives header u := by
  have hread : RequestId.ofBytes header = .given u ↔
      ∃ text, header.bind headerText? = some text ∧ Uuid.parse? text.toList = some u := by
    unfold RequestId.ofBytes RequestId.ofHeader
    cases header.bind headerText? with
    | none => simp
    | some text => cases h : Uuid.parse? text.toList <;> simp [h]
  simp only [hread, Gives, parse?_eq_some_iff, Option.bind_eq_some_iff, headerText?_eq_some_iff]
  constructor
  · rintro ⟨text, ⟨-, rfl, rfl, -⟩, hspelling⟩
    exact ⟨text, rfl, hspelling⟩
  · rintro ⟨text, rfl, hspelling⟩
    refine ⟨text, ⟨_, rfl, rfl, fun b hb => ?_⟩, hspelling⟩
    -- What spells an identifier is visible, so its bytes are read as text.
    obtain ⟨hleast, hmost⟩ := Gives.visible ⟨text, rfl, hspelling⟩ hb
    simp [isTextByte, hleast.le, hmost]

theorem ofBytes_eq_fresh (h : ∀ u, ¬ Gives header u) : RequestId.ofBytes header = .fresh := by
  cases hid : RequestId.ofBytes header with
  | given u => exact absurd (ofBytes_eq_given_iff.1 hid) (h u)
  | fresh => rfl

theorem not_gives_of_foreign {value : List UInt8} (h : ∃ b ∈ value, b.toNat ≤ 0x20 ∨ 0x7F ≤ b.toNat) (u : Uuid) :
    ¬ Gives (some value) u := by
  intro hgives
  obtain ⟨b, hb, hforeign⟩ := h
  have hvisible := hgives.visible hb
  omega

theorem fresh_canonical (h : made.VersionSeven) : Fresh made made.canonical := by
  have hgroups := made.canonical_canonical
  refine ⟨hgroups, ?_, ?_⟩
  · have hplace := hgroups.tail.tail.head?_eq
    simp only [List.drop_drop, List.head?_drop, List.getElem?_map, h.version] at hplace
    exact hplace
  · obtain ⟨d, hd, hleast, hmost⟩ := h.variant
    have hplace := hgroups.tail.tail.tail.head?_eq
    simp only [List.drop_drop, List.head?_drop, List.getElem?_map, hd] at hplace
    have hall : ∀ d : Fin 16, 8 ≤ d.val → d.val < 12 → Json.lowerHex d.val ∈ ['8', '9', 'a', 'b'] := by decide
    exact ⟨_, hall d hleast hmost, hplace⟩

theorem isHeaderValue_canonical (u : Uuid) : isHeaderValue u.canonical = true := by
  refine List.all_eq_true.2 fun c hc => ?_
  obtain ⟨hleast, hmost⟩ := u.canonical_canonical.spelling.visible c hc
  have hne : c.toNat ≠ 0x7F := hmost.ne
  simp [hleast.le, hne]

theorem echoed_ofBytes (h : made.VersionSeven) (header : Option (List UInt8)) :
    Echoed made header ((RequestId.ofBytes header).text made) := by
  have hfresh : (∀ u, ¬ Gives header u) → Fresh made ((RequestId.ofBytes header).text made) := fun hnone => by
    rw [ofBytes_eq_fresh hnone]
    exact fresh_canonical h
  refine ⟨fun u hu => ?_, hfresh, fun value hvalue hforeign => hfresh ?_, ?_⟩
  · rw [ofBytes_eq_given_iff.2 hu]
    exact u.canonical_canonical
  · exact hvalue ▸ not_gives_of_foreign hforeign
  · cases RequestId.ofBytes header <;> exact isHeaderValue_canonical _

theorem Echoed.eq_canonical (h : Echoed made header text) (hgives : Gives header u) : text = u.canonical :=
  (h.given u hgives).eq_canonical

/-- The text is the canonical form of some identifier. -/
theorem Echoed.exists_canonical (h : Echoed made header text) : ∃ u, Canonical text u := by
  by_cases hgives : ∃ u, Gives header u
  · obtain ⟨u, hu⟩ := hgives
    exact ⟨u, h.given u hu⟩
  · exact ⟨made, (h.fresh (not_exists.1 hgives)).canonical⟩

/-- What comes back for a text that was sent back is the text. -/
theorem Echoed.again {made' : Uuid} {text' : String} (h : Echoed made header text)
    (h' : Echoed made' (some (Utf8.bytes text)) text') : text' = text := by
  obtain ⟨u, hu⟩ := h.exists_canonical
  rw [h'.eq_canonical ⟨text, rfl, hu.spelling⟩, hu.eq_canonical]

/-- The texts for two identifiers are the same if and only if their values are. -/
theorem Echoed.eq_iff {made' v : Uuid} {header' : Option (List UInt8)} {text' : String} (h : Echoed made header text)
    (h' : Echoed made' header' text') (hu : Gives header u) (hv : Gives header' v) :
    text = text' ↔ u.value = v.value := by
  rw [h.eq_canonical hu, h'.eq_canonical hv, canonical_inj, value_inj]

/-! ## The planes -/

/-- The two routers. -/
inductive Plane where
  | control (limit : Option Nat)
  | demo

/-- What a plane makes of a request. -/
def Plane.exchange : Plane → Registry → Draws → Request → Exchange
  | control limit => Http.control limit
  | demo => Http.demo

/-- The request comes to the router: what stands before it does not turn the request away for its length. -/
def Plane.Routes : Plane → Request → Prop
  | control limit, q => q.Admitted limit
  | demo, _ => True

/-- The request gets a response that carries the text, where `made` is the identifier made for a request that gives
none. -/
def Plane.Returns (p : Plane) (r : Registry) (d : Draws) (q : Request) (made : Uuid) (text : String) : Prop :=
  ∃ resp, (p.exchange r d q).answer = .response resp ∧ resp.requestId.map (RequestId.text made) = some text

/-- All of a response but its identifier. -/
def Response.anonymous (resp : Response) : Response := { resp with requestId := none }

/-- All of an exchange but the identifier of its response. -/
def Exchange.anonymous (x : Exchange) : Exchange := x.mapResponse Response.anonymous

variable {p : Plane} {r : Registry} {d : Draws} {q : Request} {resp : Response}

theorem exists_of_mapResponse {x : Exchange} {f : Response → Response}
    (h : (x.mapResponse f).answer = .response resp) : ∃ resp', resp = f resp' := by
  obtain ⟨answer, t⟩ := x
  cases answer with
  | response resp' => exact ⟨resp', (Answer.response.inj h).symm⟩
  | panic message => cases h

theorem requestId_forMethod (method : String) (resp : Response) :
    (resp.forMethod method).requestId = resp.requestId := by
  unfold Response.forMethod
  split <;> rfl

theorem requestId_finished (q : Request) (resp : Response) : (finished q resp).requestId = resp.requestId := by
  rw [finished, requestId_forMethod]
  cases missedMethods? q <;> rfl

theorem anonymous_forMethod (method : String) (resp : Response) :
    (resp.forMethod method).anonymous = resp.anonymous.forMethod method := by
  unfold Response.forMethod
  split <;> rfl

theorem anonymous_finished (q : Request) (resp : Response) :
    (finished q resp).anonymous = finished q resp.anonymous := by
  rw [finished, finished, anonymous_forMethod]
  cases missedMethods? q <;> rfl

/-- What a response carries is the identifier that the header of its request stands for. -/
theorem eq_ofBytes_of_response {id : RequestId} (h : (p.exchange r d q).answer = .response resp)
    (hid : resp.requestId = some id) : id = .ofBytes q.requestId := by
  cases p with
  | control limit =>
    unfold Plane.exchange at h
    dsimp only at h
    rw [control_eq] at h
    split at h
    · obtain rfl := Answer.response.inj h
      rw [requestId_finished] at hid
      cases hid
    · rw [mapResponse_mapResponse] at h
      obtain ⟨resp', rfl⟩ := exists_of_mapResponse h
      rw [requestId_finished] at hid
      exact (Option.some.inj hid).symm
  | demo =>
    unfold Plane.exchange demo at h
    obtain ⟨resp', rfl⟩ := exists_of_mapResponse h
    rw [requestId_forMethod] at hid
    exact (Option.some.inj hid).symm

/-- Every response of a router carries an identifier. -/
theorem exists_requestId_of_response (hroutes : p.Routes q) (h : (p.exchange r d q).answer = .response resp) :
    ∃ id, resp.requestId = some id := by
  cases p with
  | control limit =>
    unfold Plane.exchange at h
    dsimp only at h
    rw [control_eq, exceedsDeclared_eq_false_iff.2 hroutes, if_neg Bool.false_ne_true, mapResponse_mapResponse] at h
    obtain ⟨resp', rfl⟩ := exists_of_mapResponse h
    exact ⟨_, requestId_finished q _⟩
  | demo =>
    unfold Plane.exchange demo at h
    obtain ⟨resp', rfl⟩ := exists_of_mapResponse h
    exact ⟨_, requestId_forMethod q.method _⟩

/-- Another header changes nothing of an exchange but the identifier of its response. -/
theorem anonymous_exchange (p : Plane) (r : Registry) (d : Draws) (q : Request) (header : Option (List UInt8)) :
    (p.exchange r d { q with requestId := header }).anonymous = (p.exchange r d q).anonymous := by
  cases p with
  | control limit =>
    -- Nothing but the identifier is taken from the request where the header is looked at.
    have hcontrol : ∀ q : Request, (control limit r d q).anonymous =
        (if exceedsDeclared limit q then .reply (Trail.start r d) declaredTooLarge
          else admitted limit (Trail.start r d) q).mapResponse fun resp => finished q resp.anonymous := by
      intro q
      rw [control_eq, Exchange.anonymous, mapResponse_mapResponse]
      simp only [anonymous_finished]
      split
      · rfl
      · rw [mapResponse_mapResponse]
        rfl
    exact (hcontrol _).trans (hcontrol q).symm
  | demo =>
    unfold Plane.exchange demo Exchange.anonymous
    simp only [mapResponse_mapResponse, anonymous_forMethod]
    rfl

/-! ## The echo -/

theorem echoed_of_returns (hmade : made.VersionSeven) (h : p.Returns r d q made text) :
    Echoed made q.requestId text := by
  obtain ⟨resp, hresp, htext⟩ := h
  obtain ⟨id, hid, rfl⟩ := Option.map_eq_some_iff.1 htext
  obtain rfl := eq_ofBytes_of_response hresp hid
  exact echoed_ofBytes hmade q.requestId

/-- Every response of a router carries the canonical form of the identifier that the request gives, in any spelling,
or a fresh one. Equal identifiers get equal texts and others get others, a text that is sent back comes back, and
but for the identifier the exchange is the same whatever the header is. -/
theorem request_id_echoed {made' : Uuid} (hmade : made.VersionSeven) (hmade' : made'.VersionSeven)
    (p p' : Plane) (r r' : Registry) (d d' : Draws) (q q' : Request) :
    (∀ resp, p.Routes q → (p.exchange r d q).answer = .response resp →
      ∃ text, p.Returns r d q made text ∧ Echoed made q.requestId text) ∧
    (∀ text text', p.Returns r d q made text → p'.Returns r' d' q' made' text' →
      (∀ u v, Gives q.requestId u → Gives q'.requestId v → (text = text' ↔ u.value = v.value)) ∧
      (q'.requestId = some (Utf8.bytes text) → text' = text)) ∧
    ∀ header, (p.exchange r d { q with requestId := header }).anonymous = (p.exchange r d q).anonymous := by
  refine ⟨fun resp hroutes hresp => ?_, fun text text' h h' => ⟨fun u v hu hv => ?_, fun hsent => ?_⟩,
    anonymous_exchange p r d q⟩
  · obtain ⟨id, hid⟩ := exists_requestId_of_response hroutes hresp
    have hreturns : p.Returns r d q made (id.text made) := ⟨resp, hresp, by rw [hid, Option.map_some]⟩
    exact ⟨_, hreturns, echoed_of_returns hmade hreturns⟩
  · exact (echoed_of_returns hmade h).eq_iff (echoed_of_returns hmade' h') hu hv
  · have hback := echoed_of_returns hmade' h'
    rw [hsent] at hback
    exact (echoed_of_returns hmade h).again hback

/-- An identifier of version seven. -/
def madeSeven : Uuid :=
  ⟨[0, 1, 9, 0, 0xA, 5, 0xE, 8, 7, 0xB, 3, 0xC, 7, 0xD, 0xE, 0xF, 0xA, 1, 2, 3, 4, 5, 6, 7, 8, 9, 0, 1, 2, 3, 4,
    5], rfl⟩

/-- The identifier that the next requests spell. -/
def spelled : Uuid :=
  ⟨[0xF, 8, 1, 0xD, 4, 0xF, 0xA, 0xE, 7, 0xD, 0xE, 0xC, 1, 1, 0xD, 0, 0xA, 7, 6, 5, 0, 0, 0xA, 0, 0xC, 9, 1, 0xE, 6,
    0xB, 0xF, 6], rfl⟩

/-- A request to no route, with an identifier behind the word in capitals. -/
def capitalRequest : Request :=
  ⟨"DELETE", ⟨"/nowhere".toList, none⟩, some (Utf8.bytes "URN:UUID:F81D4fae-7DEC-11D0-a765-00A0C91E6BF6"), none, []⟩

/-- A request by a method that its route has not, with the answer to the other one for its identifier. -/
def returnedRequest : Request :=
  ⟨"PUT", ⟨"/".toList, none⟩, some (Utf8.bytes "f81d4fae-7dec-11d0-a765-00a0c91e6bf6"), some 3, [0x6F, 0x66, 0x66]⟩

/-- A request whose word is in capitals in part. -/
def mixedWordRequest : Request :=
  ⟨"GET", ⟨"/".toList, none⟩, some (Utf8.bytes "URN:uuid:f81d4fae-7dec-11d0-a765-00a0c91e6bf6"), none, []⟩

/-- Both spellings come back in canonical form, and the near miss makes for a fresh identifier. -/
theorem request_id_echoed_capitals : madeSeven.VersionSeven ∧
    Plane.demo.Returns ⟨[]⟩ (.constant .zero) capitalRequest madeSeven "f81d4fae-7dec-11d0-a765-00a0c91e6bf6" ∧
    (Plane.control (some 8)).Returns ⟨[]⟩ (.constant .zero) returnedRequest madeSeven
      "f81d4fae-7dec-11d0-a765-00a0c91e6bf6" ∧
    (Plane.control none).Returns ⟨[]⟩ (.constant .zero) mixedWordRequest madeSeven
      "0190a5e8-7b3c-7def-a123-456789012345" := by
  have hseven : madeSeven.VersionSeven := ⟨rfl, 0xA, rfl, by decide, by decide⟩
  have hspelled : Gives capitalRequest.requestId spelled := ⟨_, rfl, spelling_of_parse? (by decide +kernel)⟩
  have hroutes : (Plane.control (some 8)).Routes returnedRequest := by
    refine ⟨fun most hmost length hlength => ?_⟩
    obtain rfl := Option.some.inj hmost
    obtain rfl := Option.some.inj hlength
    decide
  obtain ⟨hlabelled, hlater, -⟩ := request_id_echoed hseven hseven .demo (.control (some 8)) ⟨[]⟩ ⟨[]⟩
    (.constant .zero) (.constant .zero) capitalRequest returnedRequest
  obtain ⟨hreturned, -, -⟩ := request_id_echoed hseven hseven (.control (some 8)) .demo ⟨[]⟩ ⟨[]⟩
    (.constant .zero) (.constant .zero) returnedRequest capitalRequest
  obtain ⟨hmixed, -, -⟩ := request_id_echoed hseven hseven (.control none) .demo ⟨[]⟩ ⟨[]⟩
    (.constant .zero) (.constant .zero) mixedWordRequest capitalRequest
  obtain ⟨text, htext, hechoed⟩ := hlabelled _ trivial rfl
  have hcanonical : text = "f81d4fae-7dec-11d0-a765-00a0c91e6bf6" :=
    (hechoed.eq_canonical hspelled).trans (by decide +kernel)
  obtain ⟨text', htext', -⟩ := hreturned _ hroutes rfl
  have hagain : text' = text := (hlater text text' htext htext').2 (by rw [hcanonical]; rfl)
  obtain ⟨made, hmade, hfresh⟩ := hmixed _ ⟨fun most hmost => absurd hmost (Option.not_mem_none most)⟩ rfl
  have hnone : RequestId.ofBytes mixedWordRequest.requestId = .fresh := by decide +kernel
  have hnot : ∀ u, ¬ Gives mixedWordRequest.requestId u := fun u hu => by
    rw [ofBytes_eq_given_iff.2 hu] at hnone
    cases hnone
  have hseven' : made = "0190a5e8-7b3c-7def-a123-456789012345" :=
    (hfresh.fresh hnot).canonical.eq_canonical.trans (by decide +kernel)
  exact ⟨hseven, hcanonical ▸ htext, hcanonical ▸ hagain ▸ htext', hseven' ▸ hmade⟩

end FaultInjection.Http
