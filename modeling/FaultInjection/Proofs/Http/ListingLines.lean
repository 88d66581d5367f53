import FaultInjection.Proofs.Http.Listing

/-!
# The lines of the listing

The listing has a line for each name, in ascending order, if no term holds a line break; a term keeps its
text as it was sent, so each line break in it makes one more line (`length_lines_listing`), and the listing
is torn. `listing_lines` says that this is the only way in which it is, in every state of a registry;
`listing_torn` is a state in which it is.
-/

namespace FaultInjection

namespace Text

/-- The lines of a text, each of which a line break ends; what stands behind the last break is none. -/
def lines (cs : List Char) : List (List Char) := (cs.splitOn '\n').dropLast

theorem length_splitOn (d : Char) (cs : List Char) : (cs.splitOn d).length = cs.count d + 1 := by
  induction cs with
  | nil => rfl
  | cons c cs ih =>
    rw [List.splitOn_cons_eq_if_modifyHead, List.count_cons]
    split
    · rw [List.length_cons, ih]
    · rw [List.length_modifyHead, ih, Nat.add_zero]

/-- The pieces between line breaks, with a line break behind each of them. -/
theorem flatMap_splitOn (cs : List Char) :
    (cs.splitOn '\n').flatMap (· ++ ['\n']) = cs ++ ['\n'] := by
  have hjoin : ∀ ps : List (List Char), ps ≠ [] →
      ps.flatMap (· ++ ['\n']) = ['\n'].intercalate ps ++ ['\n'] := by
    intro ps hps
    induction ps with
    | nil => exact absurd rfl hps
    | cons p ps ih =>
      cases ps with
      | nil => simp [List.intercalate]
      | cons p' ps =>
        rw [List.flatMap_cons, ih (by simp)]
        simp [List.intercalate]
  rw [hjoin _ (List.splitOn_ne_nil _ _), List.intercalate_splitOn]

theorem lines_append_break (as bs : List Char) :
    lines (as ++ '\n' :: bs) = as.splitOn '\n' ++ lines bs := by
  rw [lines, List.splitOn_append_cons_self, List.dropLast_append_of_ne_nil (List.splitOn_ne_nil _ _), lines]

end Text

open Text

namespace Registry

variable {r : Registry}

/-- The text of the term under a name, empty without one. -/
def textOf (r : Registry) (n : String) : String := ((r.installed? n).map Term.display).getD ""

/-- The line that the listing has for a name, without its end. -/
def lineOf (r : Registry) (n : String) : List Char := n.toList ++ '=' :: (r.textOf n).toList

/-- No term holds a line break. -/
def SingleLined (r : Registry) : Prop := ∀ n ∈ r.names, '\n' ∉ (r.textOf n).toList

instance (r : Registry) : Decidable r.SingleLined :=
  inferInstanceAs (Decidable (∀ n ∈ r.names, '\n' ∉ (r.textOf n).toList))

theorem listing_eq_lineOf (hr : r.names.Nodup) :
    (Http.listing r).toList = r.names.flatMap fun n => r.lineOf n ++ ['\n'] := by
  rw [toList_listing, list_eq_map_names hr, List.flatMap_map]
  refine List.flatMap_congr fun n _ => ?_
  simp [line, lineOf, textOf]

theorem lines_rows (rows : List (List Char)) :
    lines (rows.flatMap (· ++ ['\n'])) = rows.flatMap (·.splitOn '\n') := by
  induction rows with
  | nil => rfl
  | cons row rows ih => rw [List.flatMap_cons, List.append_assoc, List.singleton_append, lines_append_break, ih,
      List.flatMap_cons]

theorem lines_listing (hr : r.names.Nodup) :
    lines (Http.listing r).toList = r.names.flatMap fun n => (r.lineOf n).splitOn '\n' := by
  have hrows : (Http.listing r).toList = (r.names.map r.lineOf).flatMap (· ++ ['\n']) := by
    rw [listing_eq_lineOf hr, List.flatMap_map]
  rw [hrows, lines_rows, List.flatMap_map]

/-- The lines of the listing, with their ends, are all of it. -/
theorem flatMap_lines_listing (hr : r.names.Nodup) :
    (lines (Http.listing r).toList).flatMap (· ++ ['\n']) = (Http.listing r).toList := by
  rw [lines_listing hr, listing_eq_lineOf hr, List.flatMap_assoc]
  exact List.flatMap_congr fun n _ => flatMap_splitOn _

/-- A name holds no line break, so those of its line are those of its term. -/
theorem count_lineOf {n : String} (hn : n ∈ r.names) :
    (r.lineOf n).count '\n' = (r.textOf n).toList.count '\n' := by
  obtain ⟨name, rfl⟩ := exists_name hn
  have hnone : name.text.toList.count '\n' = 0 :=
    List.count_eq_zero.2 (name.not_mem_of_isDelimiter (by decide))
  rw [lineOf, List.count_append, hnone, Nat.zero_add, List.count_cons_of_ne (by decide)]

/-- The listing has a line for each name, and one for each line break in a term. -/
theorem length_lines_listing (hr : r.names.Nodup) : (lines (Http.listing r).toList).length =
    r.names.length + (r.names.map fun n => (r.textOf n).toList.count '\n').sum := by
  have hrow : ∀ ns : List String, (∀ n ∈ ns, n ∈ r.names) →
      (ns.flatMap fun n => (r.lineOf n).splitOn '\n').length =
        ns.length + (ns.map fun n => (r.textOf n).toList.count '\n').sum := by
    intro ns hns
    induction ns with
    | nil => rfl
    | cons n ns ih =>
      obtain ⟨hn, hns⟩ := List.forall_mem_cons.1 hns
      rw [List.flatMap_cons, List.length_append, length_splitOn, count_lineOf hn, ih hns, List.length_cons,
        List.map_cons, List.sum_cons]
      omega
  rw [lines_listing hr, hrow r.names fun _ hn => hn]

theorem length_lines_eq_iff (hr : r.names.Nodup) :
    (lines (Http.listing r).toList).length = r.names.length ↔ r.SingleLined := by
  rw [length_lines_listing hr, Nat.add_eq_left, List.sum_eq_zero_iff]
  simp [SingleLined, List.count_eq_zero]

/-- Without line breaks in the terms, the lines are those of the names. -/
theorem SingleLined.lines_eq (hr : r.names.Nodup) (h : r.SingleLined) :
    lines (Http.listing r).toList = r.names.map r.lineOf := by
  rw [lines_listing hr, List.map_eq_flatMap]
  refine List.flatMap_congr fun n hn => List.splitOn_eq_singleton fun hmem => ?_
  have hcount := count_lineOf hn
  rw [List.count_eq_zero.2 (h n hn)] at hcount
  exact List.count_eq_zero.1 hcount hmem

end Registry

namespace Trail

open Registry Http

/-- Take any state that a registry can reach, and a request for the listing. The names stand in ascending
order, and the body of the answer is nothing but lines with their ends. There are as many lines as names
exactly if no term holds a line break, and then each line is the name, an equals sign, and the text of the
term. -/
theorem listing_lines (texts : List String) (r : Registry) (h : ofNames texts = .ok r) (d : Draws)
    (uses : List Use) (s : Registry) (hs : s = ((start r d).run uses).registry) (limit : Option Nat)
    (e : Draws) (q : Request) (hlists : q.Lists) (hadmitted : q.Admitted limit) :
    (control limit s e q).Answers 200 (Utf8.bytes (listing s)) ∧
    s.names.Perm texts ∧ s.names.Pairwise (· < ·) ∧
    (lines (listing s).toList).flatMap (· ++ ['\n']) = (listing s).toList ∧
    ((lines (listing s).toList).length = s.names.length ↔ s.SingleLined) ∧
    (s.SingleLined → lines (listing s).toList = s.names.map s.lineOf) := by
  obtain ⟨-, hnames⟩ : s.Sound ∧ s.names = r.names := hs ▸ sound_and_names_of_run h d uses
  obtain ⟨hfresh, htexts⟩ := ofNames_spec h
  have hnodup : s.names.Nodup := hnames ▸ hfresh.nodup
  refine ⟨control_list hlists hadmitted, hnames ▸ htexts, hnames ▸ hfresh.ascending, ?_, ?_, ?_⟩
  · exact flatMap_lines_listing hnodup
  · exact length_lines_eq_iff hnodup
  · exact SingleLined.lines_eq hnodup

/-- A term that fills one line. -/
def oneLined : Registry :=
  ((start twoNames (.constant .zero)).run [.operate (.set "b" " 2*print(\"=\\n\")\t->off")]).registry

/-- An escaped line break is none, and other blanks are kept. -/
theorem listing_lines_oneLined :
    lines (listing oneLined).toList = ["a=".toList, "b= 2*print(\"=\\n\")\t->off".toList] := by
  have hnew : ofNames ["b", "a"] = .ok twoNames := by decide +kernel
  have hsingle : oneLined.SingleLined := by decide +kernel
  obtain ⟨-, -, -, -, -, hlines⟩ := listing_lines ["b", "a"] twoNames hnew (.constant .zero) _ oneLined rfl none
    (.constant .zero) plainList ⟨rfl, rfl⟩ ⟨fun _ hmost => by cases hmost⟩
  rw [hlines hsingle]
  decide +kernel

/-- A request that puts a term with a line break behind it under a name. -/
def brokenPut : Request := ⟨"PUT", ⟨['/', 'a'], none⟩, none, none, Utf8.bytes "off\n"⟩

/-- The state behind that request. -/
def torn : Registry := ((start twoNames (.constant .zero)).run [.control none brokenPut]).registry

/-- The request is accepted, and then the listing of two names has three lines, one of them empty; so it is
not true of every state that each name has one line. -/
theorem listing_torn :
    (control none twoNames (.constant .zero) brokenPut).Answers 204 [] ∧
    (control none torn (.constant .zero) plainList).Answers 200 (Utf8.bytes "a=off\n\nb=\n") ∧
    torn.names = ["a", "b"] ∧ lines "a=off\n\nb=\n".toList = ["a=off".toList, [], "b=".toList] ∧
    ¬ ((lines (listing torn).toList).length = torn.names.length ∧
      lines (listing torn).toList = torn.names.map torn.lineOf) := by
  have hlisting : listing torn = "a=off\n\nb=\n" := by decide +kernel
  have hadmitted : plainList.Admitted none := ⟨fun _ hmost => by cases hmost⟩
  have hanswer : (control none torn (.constant .zero) plainList).Answers 200 (Utf8.bytes (listing torn)) :=
    control_list ⟨rfl, rfl⟩ hadmitted
  rw [hlisting] at hanswer
  have hnames : torn.names = ["a", "b"] := by decide +kernel
  have hlines : lines "a=off\n\nb=\n".toList = ["a=off".toList, [], "b=".toList] := by decide +kernel
  refine ⟨⟨_, rfl, by decide +kernel, by decide +kernel⟩, hanswer, hnames, hlines, fun h => ?_⟩
  have hlength := h.1
  rw [hlisting, hnames, hlines] at hlength
  exact absurd hlength (by decide)

end Trail

end FaultInjection
