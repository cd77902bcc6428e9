import Mathlib
import PlayerCipher.Proofs.Script.Compact
import PlayerCipher.Proofs.Url.Form
import PlayerCipher.Url.Parse

/-! Links to pages of a site.
A link with a plain host is read part by part: scheme and host in small letters, the path by its
segments, the query as it is written. No character of such a link is encoded, dropped or read as the
mark of another part. -/

namespace PlayerCipher.Url

open Text

variable {cs host name rest scheme tail : List Char}

/-! ### Characters -/

def isSiteChar (c : Char) : Bool :=
  c.isAlpha || c == '.'

def isFormChar (c : Char) : Bool :=
  Form.staysPlain c || c == '+' || c == '%' || c == '=' || c == '&'

def isVisible (c : Char) : Bool :=
  0x20 < c.toNat

theorem exists_ofNat {c : Char} (ascii : isAscii c = true) : ∃ n < 0x80, c = Char.ofNat n :=
  ⟨c.toNat, by simpa [isAscii] using ascii, (Char.ofNat_toNat c).symm⟩

theorem isAscii_of_isAlphanum {c : Char} (word : c.isAlphanum = true) : isAscii c = true := by
  have bounds := isAlphanum_bounds word
  simp only [isAscii, decide_eq_true_eq]
  omega

theorem isAscii_of_isFormChar {c : Char} (plain : isFormChar c = true) : isAscii c = true := by
  simp only [isFormChar, Form.staysPlain, Bool.or_eq_true, beq_iff_eq] at plain
  rcases plain with ((((((((word | rfl) | rfl) | rfl) | rfl) | rfl) | rfl) | rfl) | rfl)
  · exact isAscii_of_isAlphanum word
  all_goals rfl

theorem isAscii_of_isSiteChar {c : Char} (plain : isSiteChar c = true) : isAscii c = true := by
  simp only [isSiteChar, Bool.or_eq_true, beq_iff_eq] at plain
  rcases plain with letter | rfl
  · exact isAscii_of_isAlphanum (by simp [Char.isAlphanum, letter])
  · rfl

theorem isFormChar_plain {c : Char} (plain : isFormChar c = true) :
    isVisible c = true ∧ specialQuerySet c = false ∧ c ≠ '#' := by
  obtain ⟨n, small, rfl⟩ := exists_ofNat (isAscii_of_isFormChar plain)
  revert n
  decide

theorem isFormChar_of_isIdChar {c : Char} (plain : isIdChar c = true) : isFormChar c = true := by
  simp only [isIdChar, Bool.or_eq_true, beq_iff_eq] at plain
  rcases plain with (word | rfl) | rfl
  · simp [isFormChar, Form.staysPlain, word]
  all_goals rfl

theorem isIdChar_plain {c : Char} (plain : isIdChar c = true) :
    Form.staysPlain c = true ∧ pathSet c = false ∧ endsPath c = false ∧
      isSlash .special c = false ∧ c ≠ '%' ∧ c ≠ '.' := by
  obtain ⟨n, small, rfl⟩ := exists_ofNat (isAscii_of_isFormChar (isFormChar_of_isIdChar plain))
  revert n
  decide

theorem isSiteChar_plain {c : Char} (plain : isSiteChar c = true) :
    isVisible c = true ∧ isAnySlash c = false ∧ endsPath c = false ∧ c ≠ '%' ∧ c ≠ ':' ∧ c ≠ '@' ∧
      c ≠ '[' := by
  obtain ⟨n, small, rfl⟩ := exists_ofNat (isAscii_of_isSiteChar plain)
  revert n
  decide

theorem isSiteChar_toLower (c : Char) : isSiteChar c.toLower = isSiteChar c := by
  rw [isSiteChar, isSiteChar, Char.isAlpha_toLower_eq_isAlpha]
  by_cases capital : c.isUpper = true
  · have letter : c.isAlpha = true := by
      simp [Char.isAlpha, capital]
    simp [letter]
  · rw [Char.toLower_eq_of_not_isUpper capital]

theorem all_isSiteChar_lower (cs : List Char) :
    (lower cs).all isSiteChar = cs.all isSiteChar := by
  simp only [lower, List.all_map, Function.comp_def, isSiteChar_toLower]

theorem lower_lower (cs : List Char) : lower (lower cs) = lower cs := by
  simp [lower]

/-! ### Visible texts -/

theorem withoutMargins_visible (visible : cs.all isVisible = true) : withoutMargins cs = cs := by
  have inner {ds : List Char} (visible : ds.all isVisible = true) :
      ds.dropWhile (fun c : Char => decide (c.toNat ≤ 0x20)) = ds := by
    cases ds with
    | nil => rfl
    | cons d ds =>
      rw [List.all_cons, Bool.and_eq_true, isVisible, decide_eq_true_eq] at visible
      rw [List.dropWhile_cons_of_neg (by simpa using visible.1)]
  rw [withoutMargins, inner visible, inner (by rwa [List.all_reverse]), List.reverse_reverse]

theorem isBreak_of_isVisible {c : Char} (visible : isVisible c = true) : isBreak c = false := by
  by_contra breaks
  simp only [isBreak, Bool.not_eq_false, Bool.or_eq_true, beq_iff_eq] at breaks
  rcases breaks with (rfl | rfl) | rfl <;> exact absurd visible (by decide)

theorem withoutBreaks_visible (visible : cs.all isVisible = true) : withoutBreaks cs = cs := by
  refine List.filter_eq_self.2 fun c member => ?_
  rw [isBreak_of_isVisible (List.all_eq_true.1 visible c member), Bool.not_false]

theorem afterKept_visible (visible : cs.all isVisible = true) (rest : List Char) :
    afterKept cs.length (cs ++ rest) = rest := by
  induction cs with
  | nil => rw [List.nil_append, List.length_nil, afterKept]
  | cons c cs ih =>
    rw [List.all_cons, Bool.and_eq_true] at visible
    rw [List.cons_append, List.length_cons, afterKept, isBreak_of_isVisible visible.1]
    simpa using ih visible.2

/-! ### Scheme -/

theorem scheme?_letters (letters : cs.all Char.isAlpha = true) (nonempty : cs ≠ [])
    (rest : List Char) : scheme? (cs ++ ':' :: rest) = some (lower cs) := by
  have schemes : cs.all isSchemeChar = true := by
    refine List.all_eq_true.2 fun c member => ?_
    simp [isSchemeChar, Char.isAlphanum, List.all_eq_true.1 letters c member]
  have stops : (':' :: rest).head?.any isSchemeChar = false := rfl
  obtain ⟨taken, left⟩ := Lexeme.takeWhile_run schemes stops
  obtain ⟨first, others, rfl⟩ := List.exists_cons_of_ne_nil nonempty
  rw [List.all_cons, Bool.and_eq_true] at letters
  rw [List.cons_append] at taken left
  rw [List.cons_append, scheme?, taken, left]
  simp [letters.1]

theorem colon_of_parse {text : String} {url : Url} (parsed : parse text = .ok url) :
    ':' ∈ text.toList := by
  unfold parse read at parsed
  dsimp only at parsed
  cases found : scheme? (withoutBreaks (withoutMargins text.toList)) with
  | none =>
    rw [found] at parsed
    cases parsed
  | some scheme =>
    have inside : ':' ∈ withoutBreaks (withoutMargins text.toList) := by
      unfold scheme? at found
      split at found
      · cases found
      · split at found
        · rename_i mark
          exact List.dropWhile_subset _ (List.mem_of_mem_head? mark.2)
        · cases found
    have kept := List.mem_of_mem_filter inside
    rw [withoutMargins, List.mem_reverse] at kept
    exact List.dropWhile_subset _ (List.mem_reverse.1 (List.dropWhile_subset _ kept))

/-! ### Host -/

theorem percentDecode_plain (plain : '%' ∉ cs) : percentDecode cs = encodeUtf8 cs := by
  induction cs with
  | nil => rfl
  | cons c cs ih =>
    rw [List.mem_cons, not_or] at plain
    rw [percentDecode_cons (Ne.symm plain.1), ih plain.2]
    rfl

theorem map?_ascii (ascii : cs.all isAscii = true) (small : (lower cs).all isAscii = true) :
    Domain.map? cs = some (lower cs) := by
  have single : ∀ ds : List Char, ds.all isAscii = true →
      ds.mapM Domain.mapChar = some (ds.map fun c => [c.toLower]) := by
    intro ds ascii
    induction ds with
    | nil => rfl
    | cons d ds ih =>
      rw [List.all_cons, Bool.and_eq_true] at ascii
      rw [List.mapM_cons, Domain.mapChar, if_pos ascii.1, ih ascii.2]
      rfl
  rw [Domain.map?, single cs ascii, Option.map_some, ← List.flatMap_def, ← List.map_eq_flatMap]
  exact congrArg some (if_pos small)

theorem toAscii?_lower (plain : cs.all isSiteChar = true) :
    Domain.toAscii? cs = Domain.toAscii? (lower cs) := by
  have ascii {ds : List Char} (plain : ds.all isSiteChar = true) : ds.all isAscii = true :=
    List.all_eq_true.2 fun c member => isAscii_of_isSiteChar (List.all_eq_true.1 plain c member)
  have small : (lower cs).all isAscii = true := ascii (by rwa [all_isSiteChar_lower])
  unfold Domain.toAscii?
  rw [map?_ascii (ascii plain) small, map?_ascii small (by rwa [lower_lower]), lower_lower]

structure IsPlainName (name : List Char) : Prop where
  nonempty : name ≠ []
  chars : name.all isSiteChar = true
  kept : Domain.toAscii? name = some name
  noNumber : Ipv4.endsInNumber name = false

namespace IsPlainName

variable (plain : IsPlainName name) (same : lower host = name)
include plain same

theorem host_chars {c : Char} (member : c ∈ host) : isSiteChar c = true := by
  have all := plain.chars
  rw [← same, all_isSiteChar_lower] at all
  exact List.all_eq_true.1 all c member

theorem host_nonempty : host ≠ [] := by
  rintro rfl
  exact plain.nonempty same.symm

theorem readDomain_eq : readDomain host = .ok (.name name) := by
  have chars : host.all isSiteChar = true :=
    List.all_eq_true.2 fun c member => plain.host_chars same member
  have noBracket : host.head? ≠ some '[' := by
    intro head
    exact (isSiteChar_plain (plain.host_chars same (List.mem_of_mem_head? head))).2.2.2.2.2.2 rfl
  have noPercent : '%' ∉ host := by
    intro member
    exact (isSiteChar_plain (plain.host_chars same member)).2.2.2.1 rfl
  obtain ⟨first, others, written⟩ := List.exists_cons_of_ne_nil plain.nonempty
  rw [readDomain, if_neg noBracket, percentDecode_plain noPercent, decodeUtf8_encodeUtf8,
    toAscii?_lower chars, same, plain.kept, written]
  simp only [← written, plain.noNumber, Bool.false_eq_true, if_false]

theorem readHostPort_eq :
    readHostPort "https".toList host = .ok (.name name, none, []) := by
  have length : hostLength false host = host.length := by
    have chars : ∀ c ∈ host, isSiteChar c = true := fun c => plain.host_chars same
    clear plain same
    induction host with
    | nil => rfl
    | cons c cs ih =>
      rw [List.forall_mem_cons] at chars
      obtain ⟨-, -, -, -, colon, -, bracket⟩ := isSiteChar_plain chars.1
      simp [hostLength, colon, bracket, ih chars.2]
  have special : (SchemeType.of "https".toList).isSpecial = true := by decide
  simp only [readHostPort, length, List.take_length, List.drop_length, special,
    plain.host_nonempty same, plain.readDomain_eq same]
  rfl

end IsPlainName

/-! ### Links -/

def ofSite (name tail : List Char) : Url :=
  { scheme := "https".toList, username := [], password := [], host := some (.name name)
    port := none, path := .segments (readPathStart .special tail)
    query := (readQuery .special (tail.dropWhile (!endsPath ·))).1
    fragment := (readQuery .special (tail.dropWhile (!endsPath ·))).2 }

theorem readAuthority_site (plain : IsPlainName name) (same : lower host = name)
    (ends : tail.head?.all (fun c => isSlash .special c || endsPath c) = true) :
    readAuthority "https".toList (host ++ tail) = .ok (ofSite name tail) := by
  have inside : host.all (fun c => !(isSlash .special c || endsPath c)) = true := by
    refine List.all_eq_true.2 fun c member => ?_
    obtain ⟨-, slash, mark, -⟩ := isSiteChar_plain (plain.host_chars same member)
    simpa [isSlash, isAnySlash, SchemeType.isSpecial, mark] using slash
  have stops : tail.head?.any (fun c => !(isSlash .special c || endsPath c)) = false := by
    cases tail with
    | nil => rfl
    | cons c tail => simpa [or_iff_not_imp_left] using ends
  obtain ⟨area, left⟩ := Lexeme.takeWhile_run inside stops
  have noCredentials : splitCredentials? host = none := by
    have free : host.reverse.dropWhile (· != '@') = [] := by
      refine List.dropWhile_eq_nil_iff.2 fun c member => ?_
      have known := isSiteChar_plain (plain.host_chars same (List.mem_reverse.1 member))
      exact bne_iff_ne.2 known.2.2.2.2.2.1
    rw [splitCredentials?, free]
  have special : SchemeType.of "https".toList = .special := by decide
  simp only [readAuthority, special, area, left, noCredentials, Option.getD_none,
    plain.readHostPort_eq same]
  simp [ofSite, percentEncode, pure, bind, Except.pure, Except.bind]

theorem exists_origin {origin : List Char} (same : lower origin = "https://".toList ++ name) :
    ∃ scheme host, origin = scheme ++ ("://".toList ++ host) ∧
      lower scheme = "https".toList ∧ lower host = name := by
  have parts : lower origin = "https".toList ++ ("://".toList ++ name) := by
    rw [same, ← List.append_assoc]
    rfl
  obtain ⟨scheme, rest, rfl, https, after⟩ := List.map_eq_append_iff.1 parts
  obtain ⟨mark, host, rfl, spelled, same⟩ := List.map_eq_append_iff.1 after
  -- a capital in the mark would give a letter of the mark in small letters
  have letterless {c : Char} (member : c ∈ mark) : c.toLower = c := by
    refine Char.toLower_eq_of_not_isUpper fun capital => ?_
    have letter : c.toLower.isAlpha = true := by
      rw [Char.isAlpha_toLower_eq_isAlpha, Char.isAlpha, capital, Bool.true_or]
    have among : c.toLower ∈ "://".toList := by
      rw [← spelled]
      exact List.mem_map_of_mem member
    have letterless : "://".toList.all (!·.isAlpha) = true := by decide
    simpa [letter] using List.all_eq_true.1 letterless _ among
  have written : mark = "://".toList := by
    rw [← spelled]
    exact ((List.map_congr_left fun c => letterless).trans (List.map_id mark)).symm
  exact ⟨scheme, host, by rw [written], https, same⟩

theorem parse_site {origin : List Char} (plain : IsPlainName name)
    (spelled : lower origin = "https://".toList ++ name) (visible : tail.all isVisible = true)
    (ends : tail.head?.all (fun c => isSlash .special c || endsPath c) = true) :
    parse (String.ofList (origin ++ tail)) = .ok (ofSite name tail) := by
  obtain ⟨scheme, host, rfl, https, same⟩ := exists_origin spelled
  have letters : scheme.all Char.isAlpha = true := by
    have small : (lower scheme).all Char.isAlpha = true := by rw [https]; decide
    simpa only [lower, List.all_map, Function.comp_def, Char.isAlpha_toLower_eq_isAlpha] using small
  have nonempty : scheme ≠ [] := by
    rintro rfl
    exact absurd https (by decide)
  have lead : (scheme ++ [':']).all isVisible = true := by
    rw [List.all_append, Bool.and_eq_true]
    refine ⟨List.all_eq_true.2 fun c member => ?_, by decide⟩
    exact (isSiteChar_plain (by simp [isSiteChar, List.all_eq_true.1 letters c member])).1
  have after : ("//".toList ++ (host ++ tail)).all isVisible = true := by
    rw [List.all_append, List.all_append, visible, Bool.and_true, Bool.and_eq_true]
    refine ⟨by decide, List.all_eq_true.2 fun c member => ?_⟩
    exact (isSiteChar_plain (plain.host_chars same member)).1
  have whole : scheme ++ ("://".toList ++ host) ++ tail =
      (scheme ++ [':']) ++ ("//".toList ++ (host ++ tail)) := by
    simp
  have allVisible :
      ((scheme ++ [':']) ++ ("//".toList ++ (host ++ tail))).all isVisible = true := by
    rw [List.all_append, lead, after]
    rfl
  have named : scheme? ((scheme ++ [':']) ++ ("//".toList ++ (host ++ tail))) =
      some "https".toList := by
    rw [List.append_assoc, List.singleton_append, scheme?_letters letters nonempty, https]
  have length : "https".toList.length + 1 = (scheme ++ [':']).length := by
    rw [← https, lower, List.length_map, List.length_append, List.length_singleton]
  have slashes : ("//".toList ++ (host ++ tail)).dropWhile isAnySlash = host ++ tail := by
    obtain ⟨first, others, rfl⟩ := List.exists_cons_of_ne_nil (plain.host_nonempty same)
    have slash := (isSiteChar_plain (plain.host_chars same (List.mem_cons_self ..))).2.1
    simp [isAnySlash] at slash
    simp [isAnySlash, slash]
  have special : SchemeType.of "https".toList = .special := by decide
  rw [whole]
  simp only [parse, read, String.toList_ofList, withoutMargins_visible allVisible,
    withoutBreaks_visible allVisible, named]
  rw [length, afterKept_visible lead]
  simp only [readAbsolute, special, Option.filter_none, withoutBreaks_visible after, slashes,
    readAuthority_site plain same ends]

/-! ### Paths -/

theorem percentEncode_plain {set : Char → Bool}
    (plain : ∀ c ∈ cs, set c = false ∧ isAscii c = true) : percentEncode set cs = cs := by
  induction cs with
  | nil => rfl
  | cons c cs ih =>
    rw [List.forall_mem_cons] at plain
    rw [percentEncode, List.flatMap_cons, percentChar, plain.1.1, plain.1.2]
    exact congrArg (c :: ·) (ih plain.2)

theorem unescapeDots_plain (plain : '%' ∉ cs) : unescapeDots cs = cs := by
  induction cs with
  | nil => rfl
  | cons c cs ih =>
    rw [List.mem_cons, not_or] at plain
    rw [unescapeDots, ih plain.2]
    · rintro rest rfl
      exact absurd rfl plain.1
    · rintro rest rfl
      exact absurd rfl plain.1

theorem isVisible_of_isIdChar (plain : cs.all isIdChar = true) : cs.all isVisible = true :=
  List.all_eq_true.2 fun c member =>
    (isFormChar_plain (isFormChar_of_isIdChar (List.all_eq_true.1 plain c member))).1

namespace OpenPath

theorem step_plain {path : OpenPath} (plain : cs.all isIdChar = true) (behind : path.last = [])
    (ended : Bool) : path.step .special cs ended =
      if ended then { path with last := cs }.close else { path with last := cs } := by
  have chars {c : Char} (member : c ∈ cs) := isIdChar_plain (List.all_eq_true.1 plain c member)
  have noPercent : '%' ∉ cs := fun member => (chars member).2.2.2.2.1 rfl
  have noDot : '.' ∉ cs := fun member => (chars member).2.2.2.2.2 rfl
  have oneDot : cs ≠ ['.'] := fun same => noDot (by simp [same])
  have twoDots : cs ≠ ['.', '.'] := fun same => noDot (by simp [same])
  have written : percentEncode pathSet cs = cs := percentEncode_plain fun c member =>
    ⟨(chars member).2.1, isAscii_of_isFormChar
      (isFormChar_of_isIdChar (List.all_eq_true.1 plain c member))⟩
  have kept : withoutBreaks cs = cs := withoutBreaks_visible (isVisible_of_isIdChar plain)
  simp [step, append, kept, unescapeDots_plain noPercent, oneDot, twoDots, written, behind]

theorem steps_plain {texts : List (List Char)} (nonempty : texts ≠ [])
    (plain : ∀ text ∈ texts, text.all isIdChar = true) {path : OpenPath} (behind : path.last = []) :
    (path.steps .special texts).segments = path.closed ++ texts := by
  fun_induction steps SchemeType.special path texts with
  | case1 => exact absurd rfl nonempty
  | case2 path text =>
    rw [step_plain (plain text (List.mem_singleton_self text)) behind]
    rfl
  | case3 path text texts more ih =>
    rw [List.forall_mem_cons] at plain
    rw [step_plain plain.1 behind] at ih ⊢
    rw [ih more plain.2 rfl]
    simp [close]

end OpenPath

theorem mem_of_mem_intercalate {sep : List Char} {texts : List (List Char)} {c : Char}
    (member : c ∈ sep.intercalate texts) : c ∈ sep ∨ ∃ text ∈ texts, c ∈ text := by
  induction texts with
  | nil => exact absurd member List.not_mem_nil
  | cons text texts ih =>
    cases texts with
    | nil =>
      rw [List.intercalate_singleton] at member
      exact .inr ⟨text, List.mem_singleton_self text, member⟩
    | cons next texts =>
      rw [List.intercalate_cons_cons, List.mem_append, List.mem_append] at member
      obtain (here | mark) | later := member
      · exact .inr ⟨text, List.mem_cons_self .., here⟩
      · exact .inl mark
      · exact (ih later).imp id fun ⟨other, among, inside⟩ =>
          ⟨other, List.mem_cons_of_mem text among, inside⟩

theorem flatMap_slash (text : List Char) (texts : List (List Char)) :
    ((text :: texts).flatMap fun part => '/' :: part) =
      '/' :: ['/'].intercalate (text :: texts) := by
  induction texts generalizing text with
  | nil => simp
  | cons next texts ih =>
    rw [List.flatMap_cons, ih, List.intercalate_cons_cons]
    simp

theorem readPath_plain {texts : List (List Char)} (nonempty : texts ≠ [])
    (plain : ∀ text ∈ texts, text.all isIdChar = true) {rest : List Char}
    (ends : rest.head?.all endsPath = true) :
    readPathStart .special ('/' :: (['/'].intercalate texts ++ rest)) = texts := by
  have chars {text : List Char} (member : text ∈ texts) {c : Char} (inside : c ∈ text) :=
    isIdChar_plain (List.all_eq_true.1 (plain text member) c inside)
  have whole {c : Char} (member : c ∈ ['/'].intercalate texts) :
      endsPath c = false ∧ (if isSlash .special c then '/' else c) = c := by
    obtain mark | ⟨text, among, inside⟩ := mem_of_mem_intercalate member
    · rw [List.mem_singleton.1 mark]
      decide
    · have known := chars among inside
      exact ⟨known.2.2.1, by rw [known.2.2.2.1]; rfl⟩
  have inside : (['/'].intercalate texts).all (!endsPath ·) = true :=
    List.all_eq_true.2 fun c member => by rw [(whole member).1, Bool.not_false]
  have stops : rest.head?.any (!endsPath ·) = false := by
    cases rest with
    | nil => rfl
    | cons c rest => simpa using ends
  have same : (['/'].intercalate texts).map (fun c => if isSlash .special c then '/' else c) =
      ['/'].intercalate texts :=
    (List.map_congr_left fun c member => (whole member).2).trans (List.map_id _)
  have slashless : ∀ text ∈ texts, '/' ∉ text := by
    intro text member inside
    exact absurd (chars member inside).2.2.2.1 (by decide)
  have root : isSlash .special '/' = true := rfl
  rw [readPathStart, if_pos root, readPath, OpenPath.extend, (Lexeme.takeWhile_run inside stops).1,
    same, splitAt_eq_splitOn, List.splitOn_intercalate '/' slashless nonempty]
  exact OpenPath.steps_plain nonempty plain rfl

theorem path_ofSite {texts : List (List Char)} (nonempty : texts ≠ [])
    (plain : ∀ text ∈ texts, text.all isIdChar = true) :
    (ofSite name ('/' :: ['/'].intercalate texts)).path.text = '/' :: ['/'].intercalate texts := by
  have ends : ([] : List Char).head?.all endsPath = true := rfl
  have path := readPath_plain nonempty plain ends
  rw [List.append_nil] at path
  rw [ofSite, path]
  obtain ⟨text, texts, rfl⟩ := List.exists_cons_of_ne_nil nonempty
  exact flatMap_slash text texts

theorem all_isVisible_segments {texts : List (List Char)}
    (plain : ∀ text ∈ texts, text.all isIdChar = true) :
    ('/' :: ['/'].intercalate texts).all isVisible = true := by
  refine List.all_eq_true.2 fun c member => ?_
  rw [List.mem_cons] at member
  obtain rfl | member := member
  · rfl
  obtain mark | ⟨text, among, inside⟩ := mem_of_mem_intercalate member
  · rw [List.mem_singleton.1 mark]
    rfl
  · exact List.all_eq_true.1 (isVisible_of_isIdChar (plain text among)) c inside

/-! ### Queries -/

theorem readQuery_form (plain : cs.all isFormChar = true) :
    readQuery .special ('?' :: cs) = (some cs, none) := by
  have chars {c : Char} (member : c ∈ cs) := isFormChar_plain (List.all_eq_true.1 plain c member)
  have inside : cs.all (· != '#') = true :=
    List.all_eq_true.2 fun c member => bne_iff_ne.2 (chars member).2.2
  rw [List.all_eq_true] at inside
  have taken : cs.takeWhile (· != '#') = cs := List.takeWhile_eq_self_iff.2 inside
  have left : cs.dropWhile (· != '#') = [] := List.dropWhile_eq_nil_iff.2 inside
  have written : percentEncode specialQuerySet cs = cs := percentEncode_plain fun c member =>
    ⟨(chars member).2.1, isAscii_of_isFormChar (List.all_eq_true.1 plain c member)⟩
  simp [readQuery, taken, left, written, SchemeType.isSpecial, readFragment]

namespace Form

theorem encode_plain (plain : cs.all isIdChar = true) : encode cs = cs := by
  induction cs with
  | nil => rfl
  | cons c cs ih =>
    rw [List.all_cons, Bool.and_eq_true] at plain
    rw [encode, List.flatMap_cons, encodeChar, if_pos (isIdChar_plain plain.1).1]
    exact congrArg (c :: ·) (ih plain.2)

theorem isFormChar_encode {c : Char} (member : c ∈ encode cs) : isFormChar c = true := by
  obtain ⟨d, -, member⟩ := List.mem_flatMap.1 member
  unfold encodeChar at member
  split_ifs at member with plain blank
  · rw [List.mem_singleton.1 member, isFormChar, plain]
    rfl
  · rw [List.mem_singleton.1 member]
    rfl
  · obtain ⟨byte, -, member⟩ := List.mem_flatMap.1 member
    have digit (n : ℕ) : isFormChar (hexDigitUpper n) = true := by
      simp [isFormChar, staysPlain, isAlphanum_hexDigitUpper]
    simp only [percentByte, List.mem_cons, List.not_mem_nil, or_false] at member
    obtain rfl | rfl | rfl := member
    · rfl
    · exact digit _
    · exact digit _

theorem all_isFormChar_write (pairs : List Pair) : (write pairs).all isFormChar = true := by
  refine List.all_eq_true.2 fun c member => ?_
  rw [write_eq_intercalate] at member
  obtain mark | ⟨text, among, inside⟩ := mem_of_mem_intercalate member
  · rw [List.mem_singleton.1 mark]
    rfl
  · obtain ⟨pair, -, rfl⟩ := List.mem_map.1 among
    rw [writePair, List.mem_append, List.mem_cons] at inside
    obtain key | rfl | value := inside
    · exact isFormChar_encode key
    · rfl
    · exact isFormChar_encode value

end Form

end PlayerCipher.Url
