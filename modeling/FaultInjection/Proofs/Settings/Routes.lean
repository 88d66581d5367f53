import FaultInjection.Proofs.Json.Literal
import FaultInjection.Proofs.Json.Reading
import FaultInjection.Proofs.Settings.Declaration
import FaultInjection.Proofs.Settings.Isolation

/-!
# Two ways from JSON to settings

A JSON object that declares settings is read alike by both routes, as the only file that is loaded and directly:
`json_routes_agree`. Both come to reading the tree of the object (`load?_of_declares`, `ofJson?_of_declares`), which
gives the defaults with the declared values in their places.
-/

namespace FaultInjection

namespace Settings

open Node Json

variable {ms fs : List (Option String × Json.Value)} {declared : (x : Setting) → Option x.Value} {text : String}

/-! ## The file -/

theorem head?_of_object {cs : List Char} (h : ValueText cs (.object ms)) : cs.head? = some '\x7b' := by
  generalize hv : Json.Value.object ms = v at h
  cases h with
  | noMembers | object => rfl
  | string =>
    unfold stringValue at hv
    split at hv <;> cases hv
  | _ => cases hv

/-- A text with an object has no byte order mark. -/
theorem withoutMark_of_object (h : JsonText text.toList (.object ms)) : withoutMark text = text := by
  have hne : ∀ rest, text.toList ≠ '\uFEFF' :: rest := by
    intro rest hmark
    rw [hmark] at h
    generalize hcs : '\uFEFF' :: rest = cs at h
    cases h with
    | @intro before body after _ hb hv ha =>
      cases before with
      | cons c before =>
        obtain ⟨rfl, -⟩ := List.cons.inj hcs
        exact absurd (hb _ List.mem_cons_self) (by decide)
      | nil =>
        obtain ⟨tail, rfl⟩ := List.head?_eq_some_iff.1 (head?_of_object hv)
        exact absurd (List.cons.inj hcs).1 (by decide)
  unfold withoutMark
  split
  · next hmark => exact absurd hmark (hne _)
  · rfl

theorem Declares.layer?_eq (h : Declares ms declared) (htext : JsonText text.toList (.object ms)) :
    File.layer? (.json text) = some (layerOfJson ms) := by
  rw [File.layer?, withoutMark_of_object htext, parse?_of_jsonText htext]
  exact if_pos h.isReadable

theorem Declares.layerOf_eq (h : Declares ms declared) (htext : JsonText text.toList (.object ms)) :
    layerOf (some (.json text)) = layerOfJson ms := by
  rw [layerOf, Option.bind_some, h.layer?_eq htext, Option.getD_some]

/-- The file gives for a setting what its object has at the place. -/
theorem Declares.given_eq (h : Declares ms declared) (htext : JsonText text.toList (.object ms)) (x : Setting) :
    x.given (some (.json text)) = (table (layerOfJson ms)).at? x.path := by
  obtain ⟨k, ks, hpath⟩ : ∃ k ks, x.path = k :: ks := by cases x <;> exact ⟨_, _, rfl⟩
  have hreaching : Layer.reaching x.path (layerOfJson ms) =
      ((table (layerOfJson ms)).at? x.path).toList.map fun n => ([], n) := by
    rw [hpath]
    exact reaching_layerOfJson (h.root.plain plain_rootNames) k ks
  rw [Setting.given, h.layerOf_eq htext, at?_addLayer (h.keeps x), x.empty_at, hreaching, h.at?_eq x]
  cases hv : (Json.Value.object ms).at? x.path with
  | none => rfl
  | some v =>
    obtain ⟨w, hwritten⟩ := h.exists_written hv
    exact congrArg some (putAt_of_scalar (Setting.convert_of_written hwritten).1 _)

/-- Trees that give every setting alike are read alike. -/
theorem settings?_congr {root root' : Node} (hopen : ∀ x : Setting, Open x.path root)
    (hopen' : ∀ x : Setting, Open x.path root')
    (h : ∀ x : Setting, x.read (root.at? x.path) = x.read (root'.at? x.path)) : root.settings? = root'.settings? := by
  refine Option.ext fun s => ⟨fun hs => ?_, fun hs => ?_⟩
  · exact settings?_of_read hopen' fun x => (h x).symm.trans (read_of_settings? x (hopen x) hs)
  · exact settings?_of_read hopen fun x => (h x).trans (read_of_settings? x (hopen' x) hs)

/-- The file is loaded as the tree of its object is read. -/
theorem load?_of_declares (h : Declares ms declared) (htext : JsonText text.toList (.object ms)) :
    load? (some (.json text)) [] = (table (layerOfJson ms)).settings? := by
  have hload : load? (some (.json text)) [] = (tree (layerOfJson ms) []).settings? := by
    rw [load?, h.layer?_eq htext]
    rfl
  have henvironment : environmentLayer [] = [] := rfl
  rw [hload]
  refine settings?_congr (fun x => Setting.tree_open (h.keeps x) (Layer.keeps_nil _)) h.open_object fun x => ?_
  have hkeeps : Layer.Keeps x.path (layerOf (some (.json text))) := by
    rw [h.layerOf_eq htext]
    exact h.keeps x
  have hread := Setting.read_file hkeeps
  rw [h.layerOf_eq htext, h.given_eq htext] at hread
  rw [tree, henvironment, addLayer_nil, hread]

/-! ## The direct route -/

theorem Sparse.members? {names : List String} (h : Sparse names ms) :
    members? names (.object ms) = some (.named ms) := by
  refine if_pos (Bool.and_eq_true_iff.2 ⟨List.all_eq_true.2 fun m hm => ?_, List.all_eq_true.2 fun name hname => ?_⟩)
  · rcases h.others m hm with ⟨name, -, heq⟩ | ⟨name, heq, -⟩ <;> rw [heq] <;> rfl
  · exact decide_eq_true (h.once name hname)

/-- A member is read as the field with its name is. -/
theorem readMember_eq {α : Type} {name : String} {read : Json.Value → Option α} {read' : Node → Option α}
    (honce : Once ms name) (h : ∀ v, ms.lookup (some name) = some v → read v = read' (nodeOfJson v)) (place : Nat)
    (default : α) : readMember (.named ms) name place read default =
      (nodeOfJson (.object ms)).read name place read' default := by
  have hfield : (nodeOfJson (.object ms)).setting? name place = (ms.lookup (some name)).map nodeOfJson :=
    lookup_layerOfJson honce
  rw [readMember, Node.read, hfield, Members.get?]
  cases hv : ms.lookup (some name) with
  | none => rfl
  | some v => exact h v hv

theorem guard_object (fs : List (Option String × Json.Value)) :
    (guard ((nodeOfJson (.object fs)).isSection = true) : Option Unit) = some () := rfl

/-- Every member of a section is read by both routes alike. -/
def ReadsAlike (k : String) (fs : List (Option String × Json.Value)) : Prop :=
  ∀ (x : Setting) (l : String), x.path = [k, l] →
    ∀ v, fs.lookup (some l) = some v → x.json? v = x.convert (nodeOfJson v)

theorem jsonServer?_eq (hfs : Sparse ["host", "port", "max_body_bytes", "shutdown_timeout_secs"] fs)
    (hread : ReadsAlike "server" fs) : jsonServer? (.object fs) = (nodeOfJson (.object fs)).server? := by
  unfold jsonServer? Node.server?
  simp only [hfs.members?, guard_object, Option.bind_eq_bind, Option.bind_some]
  refine Option.bind_congr' (readMember_eq (hfs.once _ (by decide)) (hread .serverHost _ rfl) 0 _) fun host _ => ?_
  refine Option.bind_congr' (readMember_eq (hfs.once _ (by decide)) (hread .serverPort _ rfl) 1 _) fun port _ => ?_
  refine Option.bind_congr' (readMember_eq (hfs.once _ (by decide)) (hread .maxBodyBytes _ rfl) 2 _) fun bytes _ => ?_
  exact Option.bind_congr' (readMember_eq (hfs.once _ (by decide)) (hread .shutdownTimeoutSecs _ rfl) 3 _)
    fun secs _ => rfl

theorem jsonDemo?_eq (hfs : Sparse ["enabled", "host", "port"] fs) (hread : ReadsAlike "demo" fs) :
    jsonDemo? (.object fs) = (nodeOfJson (.object fs)).demo? := by
  unfold jsonDemo? Node.demo?
  simp only [hfs.members?, guard_object, Option.bind_eq_bind, Option.bind_some]
  refine Option.bind_congr' (readMember_eq (hfs.once _ (by decide)) (hread .demoEnabled _ rfl) 0 _) fun enabled _ => ?_
  refine Option.bind_congr' (readMember_eq (hfs.once _ (by decide)) (hread .demoHost _ rfl) 1 _) fun host _ => ?_
  exact Option.bind_congr' (readMember_eq (hfs.once _ (by decide)) (hread .demoPort _ rfl) 2 _) fun port _ => rfl

theorem jsonTelemetry?_eq (hfs : Sparse ["log_filter", "log_format"] fs) (hread : ReadsAlike "telemetry" fs) :
    jsonTelemetry? (.object fs) = Node.telemetry? (nodeOfJson (.object fs)) := by
  unfold jsonTelemetry? Node.telemetry?
  simp only [hfs.members?, guard_object, Option.bind_eq_bind, Option.bind_some]
  refine Option.bind_congr' (readMember_eq (hfs.once _ (by decide)) (hread .logFilter _ rfl) 0 _) fun filter _ => ?_
  exact Option.bind_congr' (readMember_eq (hfs.once _ (by decide)) (hread .logFormat _ rfl) 1 _) fun format _ => rfl

/-- A section that is given is an object whose members are read alike. -/
theorem Declares.exists_section (h : Declares ms declared) {s : String × List String} (hs : s ∈ Settings.sections)
    {v : Json.Value} (hv : ms.lookup (some s.1) = some v) :
    ∃ fs, v = .object fs ∧ Sparse s.2 fs ∧ ReadsAlike s.1 fs := by
  obtain ⟨fs, rfl, hfs⟩ := h.sections s hs v (mem_of_lookup hv)
  refine ⟨fs, rfl, hfs, fun x l hpath v' hv' => ?_⟩
  obtain ⟨w, hwritten⟩ := h.exists_written (hpath ▸ at?_section hv hv')
  exact (Setting.convert_of_written hwritten).2.1

/-- The object is read directly as its node is. -/
theorem ofJson?_of_declares (h : Declares ms declared) :
    ofJson? (.object ms) = (table (layerOfJson ms)).settings? := by
  have htable : table (layerOfJson ms) = nodeOfJson (.object ms) := rfl
  rw [htable]
  unfold ofJson? Node.settings?
  have hmembers : Settings.members? ["server", "demo", "failpoints", "telemetry"] (.object ms) = some (.named ms) :=
    h.root.members?
  simp only [hmembers, guard_object, Option.bind_eq_bind, Option.bind_some]
  refine Option.bind_congr' (readMember_eq (h.root.once _ (by decide)) (fun v hv => ?_) 0 _) fun server _ => ?_
  · obtain ⟨fs, rfl, hfs, hread⟩ := h.exists_section (s := ("server", _)) List.mem_cons_self hv
    exact jsonServer?_eq hfs hread
  refine Option.bind_congr' (readMember_eq (h.root.once _ (by decide)) (fun v hv => ?_) 1 _) fun demo _ => ?_
  · obtain ⟨fs, rfl, hfs, hread⟩ := h.exists_section (s := ("demo", _)) (.tail _ List.mem_cons_self) hv
    exact jsonDemo?_eq hfs hread
  refine Option.bind_congr' (readMember_eq (h.root.once _ (by decide)) (fun v hv => ?_) 2 _) fun failpoints _ => ?_
  · have hat : (Json.Value.object ms).at? Setting.failpoints.path = some v := at?_root hv
    obtain ⟨w, hwritten⟩ := h.exists_written hat
    exact (Setting.convert_of_written hwritten).2.1
  refine Option.bind_congr' (readMember_eq (h.root.once _ (by decide)) (fun v hv => ?_) 3 _) fun telemetry _ => rfl
  obtain ⟨fs, rfl, hfs, hread⟩ := h.exists_section (s := ("telemetry", _)) (.tail _ (.tail _ List.mem_cons_self)) hv
  exact jsonTelemetry?_eq hfs hread

/-! ## The settings -/

theorem Declares.read_in_range (h : Declares ms declared) {x : Setting}
    (hrange : ∀ w, declared x = some w → x.InRange w) :
    x.read ((table (layerOfJson ms)).at? x.path) = some (x.of (Setting.overriding declared)) := by
  rw [h.at?_eq x, Setting.of_overriding]
  obtain ⟨hv, hw⟩ | ⟨v, w, hv, hw, hwritten⟩ := h.cases x
  · rw [hv, hw]
    exact x.read_none
  · rw [hv, hw]
    exact (Setting.convert_of_written hwritten).2.2.1 (hrange w hw)

theorem Declares.read_out_of_range (h : Declares ms declared) {x : Setting} {w : x.Value}
    (hw : declared x = some w) (hrange : ¬ x.InRange w) : x.read ((table (layerOfJson ms)).at? x.path) = none := by
  rw [h.at?_eq x]
  obtain ⟨-, hnone⟩ | ⟨v, w', hv, hw', hwritten⟩ := h.cases x
  · exact absurd (hnone.symm.trans hw) (Option.some_ne_none w).symm
  · obtain rfl := Option.some.inj (hw'.symm.trans hw)
    rw [hv]
    exact (Setting.convert_of_written hwritten).2.2.2 hrange

/-- An object that declares settings is loaded as a file in an empty environment as it is read directly. Both fail
if it declares a port that is greater than the greatest one, and give the defaults with the declared values in their
places otherwise. -/
theorem json_routes_agree (htext : JsonText text.toList (.object ms)) (h : Declares ms declared) :
    load? (some (.json text)) [] = parseJson? text ∧
    ((∃ x w, declared x = some w ∧ ¬ Setting.InRange x w) → parseJson? text = none) ∧
    ((∀ x w, declared x = some w → Setting.InRange x w) →
      parseJson? text = some (Setting.overriding declared)) := by
  have hdirect : parseJson? text = (table (layerOfJson ms)).settings? := by
    rw [parseJson?, parse?_of_jsonText htext, Option.bind_some, ofJson?_of_declares h]
  rw [load?_of_declares h htext, hdirect]
  refine ⟨rfl, ?_, fun hrange => settings?_of_read h.open_object fun x => h.read_in_range (hrange x)⟩
  rintro ⟨x, w, hw, hrange⟩
  refine Option.eq_none_iff_forall_ne_some.2 fun s hs => ?_
  have hread := read_of_settings? x (h.open_object x) hs
  rw [h.read_out_of_range hw hrange] at hread
  cases hread

/-- An object with an idle member, and with a section that has one more and a port with these digits. -/
def portMembers (digits : List Char) : List (Option String × Json.Value) :=
  [(some "note_1", .bool true),
    (some "demo", .object [(some "port", .number ⟨false, digits, [], none⟩), (some "x", .string "1")])]

/-- The text of the object. -/
def portText (digits : List Char) : String :=
  String.ofList ("\x7b \"note_1\":true,\"demo\":\x7b\"port\": ".toList ++ (digits ++ ",\"x\":\"1\"\x7d\x7d\n".toList))

/-- Only the port of the demonstration is declared. -/
def portOnly (n : Nat) : (x : Setting) → Option x.Value
  | .demoPort => some n
  | _ => none

theorem spaces_nil : Spaces [] := List.forall_mem_nil _

theorem spaces_space : Spaces [' '] := List.forall_mem_singleton.2 rfl

theorem spaces_line : Spaces ['\n'] := List.forall_mem_singleton.2 rfl

/-- A name that needs no escapes stands between quotes as it is. -/
theorem exists_name {name : String} (h : name.toList.flatMap escapedChar = name.toList) :
    ∃ items, StringBody name.toList items ∧ (joinItems items).map String.ofList = some name := by
  obtain ⟨items, hbody, hjoin⟩ := exists_stringBody name.toList
  rw [h] at hbody
  exact ⟨items, hbody, by rw [hjoin, Option.map_some, String.ofList_toList]⟩

theorem membersText_last (name : String) {before cs : List Char} {v : Json.Value}
    (h : name.toList.flatMap escapedChar = name.toList) (hb : Spaces before) (hv : ElementsText cs [v]) :
    MembersText (before ++ '"' :: (name.toList ++ '"' :: ':' :: cs)) [(some name, v)] := by
  obtain ⟨items, hbody, hname⟩ := exists_name h
  have hmember := @MembersText.last _ _ _ _ _ [] _ hb hbody spaces_nil hv
  rwa [hname] at hmember

theorem membersText_cons (name : String) {before cs rest : List Char} {v : Json.Value}
    (h : name.toList.flatMap escapedChar = name.toList) (hb : Spaces before) (hv : ElementsText cs [v])
    (hrest : MembersText rest ms) :
    MembersText (before ++ '"' :: (name.toList ++ '"' :: ':' :: (cs ++ ',' :: rest))) ((some name, v) :: ms) := by
  obtain ⟨items, hbody, hname⟩ := exists_name h
  have hmember := MembersText.cons hb hbody spaces_nil hv hrest
  rwa [hname] at hmember

theorem toList_portText (digits : List Char) : (portText digits).toList =
    "\x7b \"note_1\":true,\"demo\":\x7b\"port\": ".toList ++ (digits ++ ",\"x\":\"1\"\x7d\x7d\n".toList) :=
  String.toList_ofList

theorem jsonText_portText {digits : List Char} (h : WholeText digits) :
    JsonText (portText digits).toList (.object (portMembers digits)) := by
  have hnumber : Json.NumberText digits ⟨false, digits, [], none⟩ := by
    simpa using Json.NumberText.intro .absent h .absent .absent
  have hone : ValueText ['"', '1', '"'] (.string "1") := .string (.plain (by decide) (by decide) (by decide) .nil)
  have hinner := membersText_cons "port" (by decide) spaces_nil (.last spaces_space (.number hnumber) spaces_nil)
    (membersText_last "x" (by decide) spaces_nil (.last spaces_nil hone spaces_nil))
  have houter := membersText_cons "note_1" (by decide) spaces_space (.last spaces_nil .yes spaces_nil)
    (membersText_last "demo" (by decide) spaces_nil (.last spaces_nil (.object hinner) spaces_nil))
  have htext := JsonText.intro spaces_nil (.object houter) spaces_line
  simp only [List.append_assoc, List.nil_append, List.cons_append, List.append_nil] at htext
  rw [toList_portText]
  exact htext

theorem declares_port {digits : List Char} {n : Nat} (hn : n < Decimal.signedBound)
    (h : Number.integer? ⟨false, digits, [], none⟩ = some (n : Int)) : Declares (portMembers digits) (portOnly n) := by
  refine ⟨⟨?_, ?_⟩, ?_, ?_⟩
  · intro name hname
    simp only [rootNames, List.mem_cons, List.not_mem_nil, or_false] at hname
    rcases hname with rfl | rfl | rfl | rfl <;> simp [Once, portMembers]
  · refine List.forall_mem_cons.2 ⟨.inr ⟨"note_1", rfl, by decide, .bool true⟩, List.forall_mem_singleton.2 (.inl ?_)⟩
    exact ⟨"demo", by decide, rfl⟩
  · intro s hs v hv
    simp only [sections, List.mem_cons, List.not_mem_nil, or_false] at hs
    rcases hs with rfl | rfl | rfl
    · simp [portMembers] at hv
    · obtain rfl : v = .object [(some "port", .number ⟨false, digits, [], none⟩), (some "x", .string "1")] := by
        simpa [portMembers] using hv
      refine ⟨_, rfl, ?_, ?_⟩
      · intro name hname
        simp only [List.mem_cons, List.not_mem_nil, or_false] at hname
        rcases hname with rfl | rfl | rfl <;> simp [Once]
      · refine List.forall_mem_cons.2 ⟨.inl ⟨"port", by decide, rfl⟩, List.forall_mem_singleton.2 (.inr ?_)⟩
        exact ⟨"x", rfl, by decide, .text "1"⟩
    · simp [portMembers] at hv
  · intro x
    cases x with
    | demoPort => exact .some ⟨hn, _, rfl, h⟩
    | _ => exact .none

/-- A port is loaded and read directly, and one that is too great makes both fail. -/
theorem json_routes_agree_port :
    (load? (some (.json (portText "8081".toList))) [] = parseJson? (portText "8081".toList) ∧
      (parseJson? (portText "8081".toList)).map (·.demo) = some ⟨true, "127.0.0.1", 8081⟩) ∧
    load? (some (.json (portText "70000".toList))) [] = none ∧ parseJson? (portText "70000".toList) = none := by
  have hfits : WholeText "8081".toList := ⟨Decimal.allDigits_iff.2 (by decide), by decide, .inr (by decide)⟩
  have hgreat : WholeText "70000".toList := ⟨Decimal.allDigits_iff.2 (by decide), by decide, .inr (by decide)⟩
  obtain ⟨hagree, -, hsettings⟩ := json_routes_agree (jsonText_portText hfits)
    (declares_port (n := 8081) (by decide) (by decide))
  obtain ⟨hagree', hnone, -⟩ := json_routes_agree (jsonText_portText hgreat)
    (declares_port (n := 70000) (by decide) (by decide))
  have hle : 8081 ≤ maxPort := by decide
  have hlt : ¬ 70000 ≤ maxPort := by decide
  have hparse : parseJson? (portText "70000".toList) = none := hnone ⟨.demoPort, (70000 : Nat), rfl, hlt⟩
  refine ⟨⟨hagree, ?_⟩, hagree'.trans hparse, hparse⟩
  rw [hsettings]
  · rfl
  · intro x w hw
    cases x with
    | demoPort =>
      obtain rfl := Option.some.inj hw
      exact hle
    | _ => cases hw

end Settings

end FaultInjection
