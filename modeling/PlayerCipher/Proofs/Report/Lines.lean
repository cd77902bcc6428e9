import PlayerCipher.Report

/-! Text reports, line by line.
Behind the lines of the cipher, which the quiet text leaves out, every outcome has one line, in
order, and the stream URL has the last one. They can be read back from the text unless something
that they tell holds a line feed. -/

namespace PlayerCipher

open Text

namespace Outcome

def found (outcome : Outcome) : String :=
  match outcome.result with
  | .ok output => output
  | .error message => message

def said (verbosity : Verbosity) (coloured : Bool) (outcome : Outcome) : String :=
  if outcome.succeeded = true ∧ verbosity = .quiet then outcome.found
  else
    let style := if outcome.succeeded then Style.green else Style.red
    outcome.input ++ " -> " ++ style.paint coloured outcome.found

end Outcome

namespace Report

/-- Each text with a line end behind it. -/
def asLines (texts : List String) : String :=
  String.join (texts.map (· ++ "\n"))

def streamUrlSaid (verbosity : Verbosity) (coloured : Bool) (url : String) : String :=
  if verbosity = .quiet then url else Style.bold.paint coloured "Stream URL:" ++ " " ++ url

/-- What the lines behind those of the cipher say. -/
def said (verbosity : Verbosity) (coloured : Bool) (report : Report) : List String :=
  report.outcomes.map (Outcome.said verbosity coloured) ++
    (report.streamUrl.map (streamUrlSaid verbosity coloured)).toList

/-- What a report tells apart from its cipher. -/
def told (report : Report) : List String :=
  (report.outcomes.flatMap fun outcome => [outcome.input, outcome.found]) ++
    report.streamUrl.toList

variable {verbosity : Verbosity} {coloured : Bool} {report : Report} {c : Char}

theorem mem_reopen {again cs : List Char} (member : c ∈ Style.reopen again cs) :
    c ∈ Style.reset ∨ c ∈ again ∨ c ∈ cs := by
  fun_induction Style.reopen again cs with
  | case1 cs ih =>
    simp only [List.mem_append] at member
    grind [Style.reset]
  | case2 d cs _ ih => grind
  | case3 => grind

theorem notMem_paint {text : String} (plain : '\n' ∉ text.toList) (style : Style) :
    '\n' ∉ (style.paint coloured text).toList := by
  cases coloured with
  | false => exact plain
  | true =>
    have opening : '\n' ∉ style.opening := by cases style <;> decide
    have reset : '\n' ∉ Style.reset := by decide
    intro member
    rw [Style.paint, if_pos rfl, String.toList_ofList, List.mem_append, List.mem_append] at member
    rcases member with (first | inside) | last
    · exact opening first
    · rcases mem_reopen inside with first | again | here
      · exact reset first
      · exact opening again
      · exact plain here
    · exact reset last

theorem line_eq (outcome : Outcome) :
    outcome.line verbosity coloured = outcome.said verbosity coloured ++ "\n" := by
  obtain ⟨input, result⟩ := outcome
  cases result <;> cases verbosity <;> rfl

theorem streamUrlLine_eq (url : String) :
    streamUrlLine verbosity coloured url = streamUrlSaid verbosity coloured url ++ "\n" := by
  cases verbosity <;> rfl

theorem text_eq (verbosity : Verbosity) (coloured : Bool) (report : Report) :
    report.text verbosity coloured =
      String.join (if verbosity = .quiet then [] else
        cipherLines verbosity coloured report.cipher) ++
        asLines (report.said verbosity coloured) := by
  have outcomes : report.outcomes.map (Outcome.line verbosity coloured) =
      (report.outcomes.map (Outcome.said verbosity coloured)).map (· ++ "\n") := by
    rw [List.map_map]
    exact List.map_congr_left fun outcome _ => line_eq outcome
  have url : (report.streamUrl.map (streamUrlLine verbosity coloured)).toList =
      (report.streamUrl.map (streamUrlSaid verbosity coloured)).toList.map (· ++ "\n") := by
    cases report.streamUrl with
    | none => rfl
    | some url => simp [streamUrlLine_eq]
  rw [text, lines, outcomes, url, List.append_assoc, ← List.map_append, String.join_append]
  rfl

theorem splitOn_asLines {texts : List String} (single : ∀ text ∈ texts, '\n' ∉ text.toList) :
    (asLines texts).toList.splitOn '\n' = texts.map String.toList ++ [[]] := by
  induction texts with
  | nil => rfl
  | cons text texts ih =>
    rw [List.forall_mem_cons] at single
    have first : (asLines (text :: texts)).toList = text.toList ++ '\n' :: (asLines texts).toList := by
      simp [asLines]
    rw [first, List.splitOn_append_cons_self, List.splitOn_eq_singleton single.1, ih single.2]
    rfl

theorem said_single (single : ∀ text ∈ report.told, '\n' ∉ text.toList) :
    ∀ line ∈ report.said verbosity coloured, '\n' ∉ line.toList := by
  rw [told, List.forall_mem_append, List.forall_mem_flatMap] at single
  rw [said, List.forall_mem_append, List.forall_mem_map]
  refine ⟨fun outcome member => ?_, fun line member => ?_⟩
  · have input : '\n' ∉ outcome.input.toList := single.1 outcome member _ (.head _)
    have found : '\n' ∉ outcome.found.toList := single.1 outcome member _ (.tail _ (.head _))
    unfold Outcome.said
    split
    · exact found
    · simp [input, notMem_paint found]
  · obtain ⟨url, given, rfl⟩ := Option.map_eq_some_iff.1 (Option.mem_toList.1 member)
    have plain : '\n' ∉ url.toList := single.2 url (Option.mem_toList.2 given)
    unfold streamUrlSaid
    split
    · exact plain
    · have label : '\n' ∉ "Stream URL:".toList := by decide
      simp [plain, notMem_paint label]

/-- Behind the cipher the text splits into a line for every outcome and one for the stream URL. -/
theorem splitOn_text (single : ∀ text ∈ report.told, '\n' ∉ text.toList) (verbosity : Verbosity)
    (coloured : Bool) : ∃ rest : String,
      report.text verbosity coloured = String.join (if verbosity = .quiet then [] else
        cipherLines verbosity coloured report.cipher) ++ rest ∧
      rest.toList.splitOn '\n' =
        (report.said verbosity coloured).map String.toList ++ [[]] :=
  ⟨_, text_eq verbosity coloured report, splitOn_asLines (said_single single)⟩

end Report

end PlayerCipher
