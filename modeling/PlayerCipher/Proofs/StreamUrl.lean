import PlayerCipher.Proofs.Url.Form
import PlayerCipher.StreamUrl

/-! Stream URLs and signature ciphers.
A parameter is set in the query alone: the pairs under other names are written anew and read back
as they were. A signature cipher is read from the last values under its three keys, so an empty
signature hides the ones before it. -/

namespace PlayerCipher

open Url.Form

/-- Setting a parameter changes the query of a URL and no other part. The query holds the pairs
under all other names, as they were, and then the parameter. -/
theorem setParameter_replaces {text : String} {url : Url} (parsed : Url.parse text = .ok url)
    (name value : String) :
    ∃ query, setParameter text name value = .ok { url with query := some query }.render ∧
      read query =
        (url.pairs.filter fun pair => pair.1 != name.toList) ++ [(name.toList, value.toList)] := by
  let pairs : List Pair :=
    (url.pairs.filter fun pair => pair.1 != name.toList) ++ [(name.toList, value.toList)]
  refine ⟨write pairs, ?_, read_write pairs⟩
  rw [setParameter, parsed]
  rfl

/-- Credentials, port and fragment stay, encoded marks stay encoded, and the old value goes. -/
theorem setParameter_replaces_signature :
    ∃ url query, Url.parse "rtmp://u:p@h.example:8080/a?x=%261&sig=old&x=2+3#f" = .ok url ∧
      setParameter "rtmp://u:p@h.example:8080/a?x=%261&sig=old&x=2+3#f" "sig" "ä=/" =
        .ok { url with query := some query }.render ∧
      read query =
        [("x".toList, "&1".toList), ("x".toList, "2 3".toList), ("sig".toList, "ä=/".toList)] := by
  let url : Url :=
    ⟨"rtmp".toList, "u".toList, "p".toList, some (.name "h.example".toList), some 8080,
      .segments ["a".toList], some "x=%261&sig=old&x=2+3".toList, some "f".toList⟩
  have parsed : Url.parse "rtmp://u:p@h.example:8080/a?x=%261&sig=old&x=2+3#f" = .ok url := by
    decide +kernel
  have kept : (url.pairs.filter fun pair => pair.1 != "sig".toList) =
      [("x".toList, "&1".toList), ("x".toList, "2 3".toList)] := by
    decide +kernel
  obtain ⟨query, set, pairs⟩ := setParameter_replaces parsed "sig" "ä=/"
  rw [kept] at pairs
  exact ⟨url, query, parsed, set, pairs⟩

namespace SignatureCipher

def valuesUnder (key : String) (pairs : List Pair) : List (List Char) :=
  (pairs.filter fun pair => pair.1 == key.toList).map Prod.snd

/-- Name of the parameter when `given` is the one that a form names, if it names one. -/
def parameterOr (given : Option (List Char)) : String :=
  String.ofList ((given.filter fun name => !name.isEmpty).getD defaultParameter.toList)

variable {pairs : List Pair}

theorem last?_eq_getLast? (key : String) (pairs : List Pair) :
    last? key pairs = (valuesUnder key pairs).getLast? := by
  rw [last?, valuesUnder, ← List.head?_filter, List.filter_reverse, List.head?_reverse,
    List.getLast?_map]

theorem getLast?_valuesUnder_eq_none {key : String} :
    (valuesUnder key pairs).getLast? = none ↔ ∀ pair ∈ pairs, pair.1 ≠ key.toList := by
  simp [valuesUnder]

theorem ofPairs_unaddressed (missing : (valuesUnder "url" pairs).getLast? = none) :
    ofPairs pairs = .error (.badSignatureCipher "missing url") := by
  rw [ofPairs, last?_eq_getLast?, missing]

theorem ofPairs_unsigned {url : List Char}
    (addressed : (valuesUnder "url" pairs).getLast? = some url)
    (missing : (valuesUnder "s" pairs).getLast?.getD [] = []) :
    ofPairs pairs = .error (.badSignatureCipher "missing s") := by
  rw [ofPairs, last?_eq_getLast?, addressed, last?_eq_getLast?]
  cases signed : (valuesUnder "s" pairs).getLast? with
  | none => rfl
  | some signature =>
    have empty : signature = [] := by
      simpa [signed] using missing
    rw [empty]

theorem ofPairs_signed {url signature : List Char}
    (addressed : (valuesUnder "url" pairs).getLast? = some url)
    (signed : (valuesUnder "s" pairs).getLast? = some signature) (nonempty : signature ≠ []) :
    ofPairs pairs = .ok ⟨String.ofList url, String.ofList signature,
      parameterOr (valuesUnder "sp" pairs).getLast?⟩ := by
  obtain ⟨c, cs, rfl⟩ := List.exists_cons_of_ne_nil nonempty
  simp only [ofPairs, last?_eq_getLast?, addressed, signed]
  cases (valuesUnder "sp" pairs).getLast? with
  | none => rfl
  | some name => cases name <;> rfl

theorem ofPairs_ok_iff (cipher : SignatureCipher) : ofPairs pairs = .ok cipher ↔
    (valuesUnder "url" pairs).getLast? = some cipher.url.toList ∧
    (valuesUnder "s" pairs).getLast? = some cipher.signature.toList ∧ cipher.signature ≠ "" ∧
    cipher.parameter = parameterOr (valuesUnder "sp" pairs).getLast? := by
  constructor
  · intro read
    cases addressed : (valuesUnder "url" pairs).getLast? with
    | none => simp [ofPairs_unaddressed addressed] at read
    | some url =>
      cases signed : (valuesUnder "s" pairs).getLast? with
      | none => simp [ofPairs_unsigned addressed, signed] at read
      | some signature =>
        by_cases empty : signature = []
        · simp [ofPairs_unsigned addressed, signed, empty] at read
        · rw [ofPairs_signed addressed signed empty, Except.ok.injEq] at read
          simp [← read, empty]
  · intro ⟨addressed, signed, nonempty, named⟩
    rw [ofPairs_signed addressed signed (by simpa using nonempty), ← named]
    simp only [String.ofList_toList]

theorem ofPairs_congr {others : List Pair}
    (same : ∀ key ∈ ["url", "s", "sp"], valuesUnder key others = valuesUnder key pairs) :
    ofPairs others = ofPairs pairs := by
  have last (key : String) (known : key ∈ ["url", "s", "sp"]) :
      last? key others = last? key pairs := by
    rw [last?_eq_getLast?, last?_eq_getLast?, same key known]
  simp only [ofPairs, last "url" (by decide), last "s" (by decide), last "sp" (by decide)]

/-- What is written as a form is read by the last values under the three keys. The order of pairs
under different keys and all other pairs do not matter. -/
theorem parse_write (pairs : List Pair) :
    (∀ cipher, parse (String.ofList (write pairs)) = .ok cipher ↔
      (valuesUnder "url" pairs).getLast? = some cipher.url.toList ∧
      (valuesUnder "s" pairs).getLast? = some cipher.signature.toList ∧ cipher.signature ≠ "" ∧
      cipher.parameter = parameterOr (valuesUnder "sp" pairs).getLast?) ∧
    ((∃ cipher, parse (String.ofList (write pairs)) = .ok cipher) ↔
      (∃ pair ∈ pairs, pair.1 = "url".toList) ∧
      ∃ signature, (valuesUnder "s" pairs).getLast? = some signature ∧ signature ≠ []) ∧
    (∀ others, (∀ key ∈ ["url", "s", "sp"], valuesUnder key others = valuesUnder key pairs) →
      parse (String.ofList (write others)) = parse (String.ofList (write pairs))) ∧
    ((∀ pair ∈ pairs, pair.1 ≠ "url".toList) →
      parse (String.ofList (write pairs)) = .error (.badSignatureCipher "missing url")) := by
  have read (pairs : List Pair) : parse (String.ofList (write pairs)) = ofPairs pairs := by
    rw [parse, String.toList_ofList, read_write]
  simp only [read]
  refine ⟨ofPairs_ok_iff, ⟨?_, ?_⟩, fun others => ofPairs_congr, fun missing => ?_⟩
  · intro ⟨cipher, made⟩
    obtain ⟨addressed, signed, nonempty, -⟩ := (ofPairs_ok_iff cipher).1 made
    refine ⟨?_, cipher.signature.toList, signed, by simpa using nonempty⟩
    by_contra missing
    push Not at missing
    simp [getLast?_valuesUnder_eq_none.2 missing] at addressed
  · intro ⟨⟨pair, member, key⟩, signature, signed, nonempty⟩
    cases addressed : (valuesUnder "url" pairs).getLast? with
    | none => exact absurd key (getLast?_valuesUnder_eq_none.1 addressed pair member)
    | some url => exact ⟨_, ofPairs_signed addressed signed nonempty⟩
  · exact ofPairs_unaddressed (getLast?_valuesUnder_eq_none.2 missing)

/-- A second signature replaces the first one wherever other pairs stand, an empty name of the
parameter is none, and without a URL the missing signature is not looked at. -/
theorem parse_write_repeated :
    let url := ("url".toList, "https://h.example/vp?a=1&b".toList)
    let first := ("s".toList, "old".toList)
    let second := ("s".toList, "ä+%=".toList)
    let unnamed := ("sp".toList, [])
    let other := ("itag".toList, "18".toList)
    parse (String.ofList (write [first, url, unnamed, second])) =
      .ok ⟨"https://h.example/vp?a=1&b", "ä+%=", "signature"⟩ ∧
    parse (String.ofList (write [other, first, second, unnamed, url])) =
      .ok ⟨"https://h.example/vp?a=1&b", "ä+%=", "signature"⟩ ∧
    parse (String.ofList (write [unnamed, other])) =
      .error (.badSignatureCipher "missing url") := by
  intro url first second unnamed other
  have last := parse_write [first, url, unnamed, second]
  have read := (last.1 ⟨"https://h.example/vp?a=1&b", "ä+%=", "signature"⟩).2 (by decide)
  have moved := last.2.2.1 [other, first, second, unnamed, url] (by decide)
  exact ⟨read, moved.trans read, (parse_write [unnamed, other]).2.2.2 (by decide)⟩

end SignatureCipher

end PlayerCipher
