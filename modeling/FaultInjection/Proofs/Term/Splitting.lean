import FaultInjection.Proofs.Term.Escaping
import FaultInjection.Proofs.Term.Quoting

/-!
# Where a chain is cut

An arrow counts where its two bytes stand outside strings (`Arrow`). A chain is cut there and nowhere else, although
the scan begins anew in each part: the parts are whole (`WholeFrom`) and give the chain when they are joined
(`whole_of_cut`), and rows that are whole have no arrows but those that join them (`arrow_intercalate`). The cuts
never fall into a character. A chain whose strings are closed is cut apart from what follows it,
`cutText_append`, so that terms compose.
-/

namespace FaultInjection

open Text QuoteState

namespace Chain

/-- The bytes of the arrow. -/
def arrowBytes : List UInt8 := [dashByte, headByte]

/-- The bytes of an arrow begin at `i` and stand outside every string, for a scan that begins in state `q`. -/
def ArrowFrom (q : QuoteState) (bs : List UInt8) (i : Nat) : Prop :=
  bs[i]? = some dashByte ∧ bs[i + 1]? = some headByte ∧ scanBytes q (bs.take i) = .outside

/-- An arrow begins at `i` and stands outside every string. -/
def Arrow (bs : List UInt8) (i : Nat) : Prop := ArrowFrom .outside bs i

/-- From state `q` the scan ends outside strings and meets no arrow there. -/
def WholeFrom (q : QuoteState) (row : List UInt8) : Prop := scanBytes q row = .outside ∧ ∀ i, ¬ ArrowFrom q row i

variable {q : QuoteState} {b : UInt8} {bs row rest : List UInt8} {rows : List (List UInt8)} {i : Nat}

theorem arrowFrom_zero : ArrowFrom q (b :: bs) 0 ↔ q = .outside ∧ b = dashByte ∧ bs.head? = some headByte := by
  rw [ArrowFrom, List.getElem?_cons_succ, List.getElem?_cons_zero, List.head?_eq_getElem?, Option.some.injEq]
  constructor
  · rintro ⟨hb, hhead, hq⟩
    exact ⟨hq, hb, hhead⟩
  · rintro ⟨hq, hb, hhead⟩
    exact ⟨hb, hhead, hq⟩

theorem arrowFrom_succ : ArrowFrom q (b :: bs) (i + 1) ↔ ArrowFrom (stepByte q b) bs i := by
  rw [ArrowFrom, List.getElem?_cons_succ, List.getElem?_cons_succ, List.take_succ_cons]
  rfl

theorem wholeFrom_nil : WholeFrom q [] ↔ q = .outside := by
  refine ⟨fun h => h.1, fun h => ⟨h, fun i hi => ?_⟩⟩
  simp [ArrowFrom] at hi

theorem wholeFrom_cons : WholeFrom q (b :: row) ↔
    WholeFrom (stepByte q b) row ∧ ¬ (q = .outside ∧ b = dashByte ∧ row.head? = some headByte) := by
  constructor
  · rintro ⟨hscan, hnone⟩
    exact ⟨⟨hscan, fun i hi => hnone (i + 1) (arrowFrom_succ.2 hi)⟩, fun h => hnone 0 (arrowFrom_zero.2 h)⟩
  · rintro ⟨⟨hscan, hnone⟩, hfirst⟩
    refine ⟨hscan, fun i hi => ?_⟩
    cases i with
    | zero => exact hfirst (arrowFrom_zero.1 hi)
    | succ i => exact hnone i (arrowFrom_succ.1 hi)

/-! ## The parts -/

theorem intercalate_pushByte {d : List UInt8} (row : List UInt8) (rows : List (List UInt8)) :
    d.intercalate ((b :: row) :: rows) = b :: d.intercalate (row :: rows) := by
  cases rows <;> simp [List.intercalate]

theorem intercalate_arrowBytes_cons (hn : rows ≠ []) (row : List UInt8) :
    arrowBytes.intercalate (row :: rows) = row ++ dashByte :: headByte :: arrowBytes.intercalate rows := by
  obtain ⟨p, ps, rfl⟩ := List.exists_cons_of_ne_nil hn
  simp [List.intercalate, arrowBytes]

/-- The parts are whole, the first one from where the scan of the chain begins, and give the chain when they are
joined. -/
structure Parted (q : QuoteState) (bs row : List UInt8) (rows : List (List UInt8)) : Prop where
  first : WholeFrom q row
  others : ∀ r ∈ rows, WholeFrom .outside r
  joined : arrowBytes.intercalate (row :: rows) = bs

theorem Parted.head_eq (h : Parted q bs row rows) {c : UInt8} (hc : row.head? = some c) : bs.head? = some c := by
  obtain ⟨row, rfl⟩ := List.head?_eq_some_iff.1 hc
  rw [← h.joined, intercalate_pushByte]
  rfl

/-- A byte with which no arrow begins goes to the first part. -/
theorem Parted.push (h : Parted (stepByte q b) bs row rows)
    (hno : ¬ (q = .outside ∧ b = dashByte ∧ bs.head? = some headByte)) : Parted q (b :: bs) (b :: row) rows where
  first := wholeFrom_cons.2 ⟨h.first, fun hfirst => hno ⟨hfirst.1, hfirst.2.1, h.head_eq hfirst.2.2⟩⟩
  others := h.others
  joined := by rw [intercalate_pushByte, h.joined]

theorem parted_of_cut (h : cut q bs = some rows) : ∃ row rows', rows = row :: rows' ∧ Parted q bs row rows' := by
  fun_induction cut q bs generalizing rows with
  | case1 =>
    obtain rfl := Option.some.inj h
    exact ⟨[], [], rfl, wholeFrom_nil.2 rfl, by simp, by simp [List.intercalate]⟩
  | case2 => cases h
  | case3 q b ih =>
    obtain ⟨rows, hcut, rfl⟩ := Option.map_eq_some_iff.1 h
    obtain ⟨row, rows, rfl, hparted⟩ := ih hcut
    exact ⟨b :: row, rows, rfl, hparted.push fun hno => by simp at hno⟩
  | case4 q b c bs harrow ih =>
    obtain ⟨rows, hcut, rfl⟩ := Option.map_eq_some_iff.1 h
    obtain ⟨row, rows, rfl, hparted⟩ := ih hcut
    obtain ⟨rfl, rfl, rfl⟩ := harrow
    refine ⟨[], row :: rows, rfl, wholeFrom_nil.2 rfl, List.forall_mem_cons.2 ⟨hparted.first, hparted.others⟩, ?_⟩
    rw [intercalate_arrowBytes_cons (List.cons_ne_nil row rows), hparted.joined]
    rfl
  | case5 q b c bs hno ih =>
    obtain ⟨rows, hcut, rfl⟩ := Option.map_eq_some_iff.1 h
    obtain ⟨row, rows, rfl, hparted⟩ := ih hcut
    exact ⟨b :: row, rows, rfl, hparted.push fun harrow => hno ⟨harrow.1, harrow.2.1, by simpa using harrow.2.2⟩⟩

/-! ## The cuts -/

/-- Where the `k`-th part begins, with the two bytes of an arrow behind each part before it. -/
def offset (rows : List (List UInt8)) (k : Nat) : Nat := ((rows.take k).map fun row => row.length + 2).sum

/-- One part ends at `i`, and the next one begins behind an arrow. -/
def IsCut (rows : List (List UInt8)) (i : Nat) : Prop := ∃ k, k + 1 < rows.length ∧ i + 2 = offset rows (k + 1)

theorem offset_cons_succ (row : List UInt8) (rows : List (List UInt8)) (k : Nat) :
    offset (row :: rows) (k + 1) = row.length + 2 + offset rows k := by simp [offset]

theorem isCut_cons (hn : rows ≠ []) :
    IsCut (row :: rows) i ↔ i = row.length ∨ ∃ j, i = row.length + 2 + j ∧ IsCut rows j := by
  constructor
  · rintro ⟨k, hlt, hi⟩
    rw [offset_cons_succ] at hi
    cases k with
    | zero =>
      rw [offset, List.take_zero, List.map_nil, List.sum_nil] at hi
      exact .inl (by omega)
    | succ k =>
      have hle : 2 ≤ offset rows (k + 1) := by
        obtain ⟨p, ps, rfl⟩ := List.exists_cons_of_ne_nil hn
        rw [offset_cons_succ]
        omega
      exact .inr ⟨i - (row.length + 2), by omega, k, Nat.lt_of_succ_lt_succ hlt, by omega⟩
  · rintro (rfl | ⟨j, rfl, k, hlt, hj⟩)
    · have hlength := List.length_pos_iff.2 hn
      exact ⟨0, Nat.succ_lt_succ hlength, by rw [offset_cons_succ]; rfl⟩
    · exact ⟨k + 1, Nat.succ_lt_succ hlt, by rw [offset_cons_succ]; omega⟩

/-- In front of an arrow a whole part has none, and behind it everything is as if it began there. -/
theorem arrowFrom_append (h : WholeFrom q row) : ArrowFrom q (row ++ dashByte :: headByte :: rest) i ↔
    i = row.length ∨ ∃ j, i = row.length + 2 + j ∧ Arrow rest j := by
  induction row generalizing q i with
  | nil =>
    obtain rfl := wholeFrom_nil.1 h
    rw [List.nil_append, List.length_nil]
    match i with
    | 0 => simp [arrowFrom_zero]
    | 1 =>
      -- The head of the arrow begins no other one.
      have hhead : headByte ≠ dashByte := by decide
      rw [arrowFrom_succ, arrowFrom_zero]
      refine ⟨fun hno => absurd hno.2.1 hhead, ?_⟩
      rintro (hi | ⟨j, hj, -⟩) <;> omega
    | j + 2 =>
      have hscan : stepByte (stepByte .outside dashByte) headByte = .outside := rfl
      rw [arrowFrom_succ, arrowFrom_succ, hscan]
      constructor
      · exact fun hj => .inr ⟨j, by omega, hj⟩
      · rintro (hi | ⟨k, hk, harrow⟩)
        · omega
        · obtain rfl : j = k := by omega
          exact harrow
  | cons b row ih =>
    obtain ⟨hrow, hfirst⟩ := wholeFrom_cons.1 h
    rw [List.cons_append, List.length_cons]
    cases i with
    | zero =>
      rw [arrowFrom_zero]
      constructor
      · rintro ⟨hq, hb, hhead⟩
        refine absurd ⟨hq, hb, ?_⟩ hfirst
        cases row with
        | nil => exact absurd (Option.some.inj hhead) (by decide)
        | cons c row => exact hhead
      · rintro (hi | ⟨j, hj, -⟩) <;> omega
    | succ i =>
      rw [arrowFrom_succ, ih hrow]
      constructor
      · rintro (rfl | ⟨j, rfl, harrow⟩)
        · exact .inl rfl
        · exact .inr ⟨j, by omega, harrow⟩
      · rintro (hi | ⟨j, hj, harrow⟩)
        · exact .inl (by omega)
        · exact .inr ⟨j, by omega, harrow⟩

/-- Whole parts that are joined have the joining arrows and no others. -/
theorem arrow_intercalate (hn : rows ≠ []) (h : ∀ row ∈ rows, WholeFrom .outside row) :
    Arrow (arrowBytes.intercalate rows) i ↔ IsCut rows i := by
  induction rows generalizing i with
  | nil => exact absurd rfl hn
  | cons row rows ih =>
    obtain ⟨hrow, hrows⟩ := List.forall_mem_cons.1 h
    by_cases hnil : rows = []
    · subst hnil
      have hsingle : arrowBytes.intercalate [row] = row := by simp [List.intercalate]
      rw [hsingle]
      refine ⟨fun hi => absurd hi (hrow.2 i), ?_⟩
      rintro ⟨k, hlt, -⟩
      rw [List.length_singleton] at hlt
      omega
    · rw [intercalate_arrowBytes_cons hnil, Arrow, arrowFrom_append hrow, isCut_cons hnil]
      simp only [ih hnil hrows]

/-! ## Chains one behind the other -/

/-- A character goes to the first part, whatever parts follow. -/
theorem map_consFirst_bind {o o' : Option (List (List Char))} (ho : ∀ ps, o = some ps → ps ≠ []) (c : Char) :
    (o.bind fun ps => o'.map (ps ++ ·)).map (consFirst c) =
      (o.map (consFirst c)).bind fun ps => o'.map (ps ++ ·) := by
  cases o with
  | none => rfl
  | some ps =>
    cases o' with
    | none => rfl
    | some rs => exact congrArg some (consFirst_append (ho ps rfl) rs)

/-- A chain whose strings are closed is cut apart from what follows the next arrow. -/
theorem cutText_append {q : QuoteState} {cs : List Char} (h : q.scan cs = .outside) (ds : List Char) :
    cutText q (cs ++ '-' :: '>' :: ds) = (cutText q cs).bind fun ps => (cutText .outside ds).map (ps ++ ·) := by
  fun_induction cutText q cs with
  | case1 =>
    rw [List.nil_append, cutText, if_pos ⟨rfl, rfl, rfl⟩]
    rfl
  | case2 q hq => exact absurd h hq
  | case3 q c ih =>
    have hnext : ¬ (q = .outside ∧ c = '-' ∧ ([] ++ '-' :: '>' :: ds).head? = some '>') := by simp
    rw [List.cons_append, cutText_cons_of_not_arrow hnext, ih h, map_consFirst_bind fun ps => cutText_ne_nil]
  | case4 q c d cs harrow ih =>
    obtain ⟨rfl, rfl, rfl⟩ := harrow
    rw [List.cons_append, List.cons_append, cutText, if_pos ⟨rfl, rfl, rfl⟩, ih h]
    cases cutText .outside cs with
    | none => rfl
    | some ps => cases cutText .outside ds <;> rfl
  | case5 q c d cs hno ih =>
    have hnext : ¬ (q = .outside ∧ c = '-' ∧ (d :: cs ++ '-' :: '>' :: ds).head? = some '>') := by simpa using hno
    rw [List.cons_append, cutText_cons_of_not_arrow hnext, ih h, map_consFirst_bind fun ps => cutText_ne_nil]

end Chain

/-- A text is a chain exactly if the parts that it is cut into are segments. -/
theorem chainText_iff_cut {cs : List Char} {ss : List Segment} : ChainText cs ss ↔
    ∃ parts, Chain.cutText .outside cs = some parts ∧ List.Forall₂ SegmentText parts ss := by
  rw [chainText_iff]
  constructor
  · rintro ⟨parts, hn, rfl, hall⟩
    exact ⟨parts, Chain.cutText_intercalate hn (sealed_of_segments hall), hall⟩
  · rintro ⟨parts, hcut, hall⟩
    exact ⟨parts, Chain.cutText_ne_nil hcut, (Chain.intercalate_of_cutText hcut).symm, hall⟩

/-- A chain behind a text whose strings are closed leaves the text a chain by itself. -/
theorem exists_chains_of_append {cs ds : List Char} {ss : List Segment} (hc : outside.scan cs = .outside)
    (h : ChainText (cs ++ '-' :: '>' :: ds) ss) : ∃ ts us, ChainText cs ts ∧ ChainText ds us ∧ ss = ts ++ us := by
  obtain ⟨parts, hcut, hall⟩ := chainText_iff_cut.1 h
  rw [Chain.cutText_append hc] at hcut
  obtain ⟨ps, hps, hcut⟩ := Option.bind_eq_some_iff.1 hcut
  obtain ⟨rs, hrs, rfl⟩ := Option.map_eq_some_iff.1 hcut
  have hfront := List.forall₂_take_append ss ps rs hall.flip
  have hback := List.forall₂_drop_append ss ps rs hall.flip
  exact ⟨ss.take ps.length, ss.drop ps.length, chainText_iff_cut.2 ⟨ps, hps, hfront.flip⟩,
    chainText_iff_cut.2 ⟨rs, hrs, hback.flip⟩, (List.take_append_drop _ _).symm⟩

/-- Terms compose. -/
theorem parse_append {a : String} (ha : outside.scan a.toList = .outside) (b : String) (t : Term) :
    Term.parse (a ++ "->" ++ b) = .ok t ↔ ∃ t₁ t₂, Term.parse a = .ok t₁ ∧ Term.parse b = .ok t₂ ∧
      t = ⟨a ++ "->" ++ b, t₁.segments ++ t₂.segments⟩ := by
  have htext : (a ++ "->" ++ b).toList = a.toList ++ '-' :: '>' :: b.toList := by
    rw [String.toList_append, String.toList_append, List.append_assoc]
    rfl
  constructor
  · intro h
    obtain ⟨hsource, hchain⟩ := chainText_of_parse h
    rw [htext] at hchain
    obtain ⟨ts, us, hts, hus, hsegments⟩ := exists_chains_of_append ha hchain
    refine ⟨⟨a, ts⟩, ⟨b, us⟩, parse_of_chainText hts, parse_of_chainText hus, ?_⟩
    obtain ⟨source, segments⟩ := t
    exact congrArg₂ Term.mk hsource hsegments
  · rintro ⟨t₁, t₂, h₁, h₂, rfl⟩
    refine parse_of_chainText ?_
    rw [htext]
    exact (chainText_of_parse h₁).2.append (chainText_of_parse h₂).2

namespace Chain

/-- The parts of a text that is cut at its arrows: they give the text when they are joined, each of them is closed and
has no arrow outside its strings, and the cuts are the arrows of the text that stand outside strings. No cut falls
into a character. -/
structure Division (text : String) (parts : List String) : Prop where
  rows : cut .outside (Utf8.bytes text) = some (parts.map Utf8.bytes)
  joined : "->".intercalate parts = text
  closed : ∀ p ∈ parts, outside.scan p.toList = .outside
  whole : ∀ p ∈ parts, ∀ i, ¬ Arrow (Utf8.bytes p) i
  cuts : ∀ i, IsCut (parts.map Utf8.bytes) i ↔ Arrow (Utf8.bytes text) i
  boundaries : ∀ i, IsCut (parts.map Utf8.bytes) i →
    String.Pos.Raw.IsValid text ⟨i⟩ ∧ String.Pos.Raw.IsValid text ⟨i + 2⟩

theorem Arrow.boundaries {text : String} {i : Nat} (h : Arrow (Utf8.bytes text) i) :
    String.Pos.Raw.IsValid text ⟨i⟩ ∧ String.Pos.Raw.IsValid text ⟨i + 2⟩ :=
  ⟨(Utf8.isValid_of_ascii h.1 (by decide)).1, (Utf8.isValid_of_ascii h.2.1 (by decide)).2⟩

theorem division_of_split? {text : String} {parts : List String} (h : split? text = some parts) :
    Division text parts := by
  rw [split?_eq] at h
  obtain ⟨ps, hps, rfl⟩ := Option.map_eq_some_iff.1 h
  have hbytes : (ps.map String.ofList).map Utf8.bytes = ps.map Utf8.encode := by simp [Utf8.bytes_ofList]
  have hcut : cut .outside (Utf8.bytes text) = some ((ps.map String.ofList).map Utf8.bytes) := by
    rw [hbytes, Utf8.bytes_eq_encode, cut_encode, hps]
    rfl
  obtain ⟨row, rows, hrows, hparted⟩ := parted_of_cut hcut
  have hwhole : ∀ r ∈ (ps.map String.ofList).map Utf8.bytes, WholeFrom .outside r := by
    rw [hrows]
    exact List.forall_mem_cons.2 ⟨hparted.first, hparted.others⟩
  have hcuts (i : Nat) : IsCut ((ps.map String.ofList).map Utf8.bytes) i ↔ Arrow (Utf8.bytes text) i := by
    rw [← hparted.joined, ← hrows, arrow_intercalate (hrows ▸ List.cons_ne_nil row rows) hwhole]
  refine ⟨hcut, ?_, fun p hp => ?_, fun p hp => ?_, hcuts, fun i hi => ((hcuts i).1 hi).boundaries⟩
  · have htexts : (ps.map String.ofList).map String.toList = ps := by simp
    have harrow : "->".toList = arrow := rfl
    rw [← String.toList_inj, String.toList_intercalate, htexts, harrow, intercalate_of_cutText hps]
  · have hscan := (hwhole _ (List.mem_map_of_mem hp)).1
    rwa [Utf8.bytes_eq_encode, scanBytes_encode] at hscan
  · exact (hwhole _ (List.mem_map_of_mem hp)).2

theorem split?_eq_none_iff {text : String} : split? text = none ↔ outside.scan text.toList ≠ .outside := by
  rw [split?_eq, Option.map_eq_none_iff, ← scanBytes_encode, ← cut_eq_none_iff, cut_encode, Option.map_eq_none_iff]

end Chain

/-- A text is cut into a chain unless its scan ends in a string. Nothing of it is lost, the cuts are its arrows outside
strings, and they are found again in no part. So a text whose strings are closed, an arrow and any other text are a
term exactly if both texts are terms, and the segments are those of the first and then those of the second. -/
theorem chain_division :
    (∀ text : String, (Chain.split? text = none ↔ outside.scan text.toList ≠ .outside) ∧
      ∀ parts, Chain.split? text = some parts → Chain.Division text parts) ∧
    ∀ a b : String, outside.scan a.toList = .outside → ∀ t : Term,
      Term.parse (a ++ "->" ++ b) = .ok t ↔ ∃ t₁ t₂, Term.parse a = .ok t₁ ∧ Term.parse b = .ok t₂ ∧
        t = ⟨a ++ "->" ++ b, t₁.segments ++ t₂.segments⟩ :=
  ⟨fun _ => ⟨Chain.split?_eq_none_iff, fun _ h => Chain.division_of_split? h⟩, fun _ b ha t => parse_append ha b t⟩

/-- Arrows within strings, behind a longer character and behind a minus sign. -/
theorem chain_division_strings :
    Chain.Division "print(\"é->\")->off-->print(\"->\")" ["print(\"é->\")", "off-", "print(\"->\")"] ∧
    Term.parse ("print(\"->\")" ++ "->" ++ "2*off") =
      .ok ⟨"print(\"->\")->2*off", [⟨none, none, .print (some "->")⟩, ⟨none, some 2, .off⟩]⟩ := by
  have hfront : Term.parse "print(\"->\")" = .ok ⟨"print(\"->\")", [⟨none, none, .print (some "->")⟩]⟩ := by
    decide +kernel
  have hback : Term.parse "2*off" = .ok ⟨"2*off", [⟨none, some 2, .off⟩]⟩ := by decide +kernel
  exact ⟨(chain_division.1 _).2 _ (by decide +kernel),
    (chain_division.2 "print(\"->\")" "2*off" (by decide) _).2 ⟨_, _, hfront, hback, rfl⟩⟩

end FaultInjection
