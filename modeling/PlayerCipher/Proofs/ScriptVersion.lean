import PlayerCipher.Proofs.Text.Occurrence
import PlayerCipher.Proofs.Url.Authority

/-! Versions from the URLs of player scripts.
The id of a version is looked up in the whole text of a URL. No match goes on behind the end of the
path, so the text is searched part by part: the path decides, unless the host is the `s` of a
segment, or the path has no id and what follows it has one. -/

namespace PlayerCipher

open Text Text.Pattern

namespace ScriptVersion

variable {cs id lead run tail xs ys : List Char}

/-! ### Segments -/

def IsId (id : List Char) : Prop :=
  1 ≤ id.length ∧ id.all isIdChar = true

theorem playerPath_unambiguous : playerPath.IsUnambiguous := by
  refine ⟨?_, rfl⟩
  simp +decide [playerPath, Separated, Parts]

theorem captures_playerPath : playerPath.Captures lead run tail ↔
    lead = "/s/player/".toList ∧ IsId run ∧ tail = ['/'] := by
  have text (expected : String) (cs : List Char) :
      Spells [.text expected] cs ↔ cs = expected.toList := by
    simp [Spells, Piece.Spells]
  have front : List.any [.text "/s/player/"] captures = false := rfl
  have back : List.any [.text "/"] captures = false := rfl
  have pieces : playerPath.Captures lead run tail ↔ Spells [.text "/s/player/"] lead ∧
      IsId run ∧ Spells [.text "/"] tail := captures_iff front back
  rw [pieces, text, text]
  rfl

theorem matchFrom_playerPath : matchFrom [] playerPath cs = some id ↔
    IsId id ∧ ∃ rest, cs = "/s/player/".toList ++ id ++ '/' :: rest := by
  rw [playerPath_unambiguous.matchFrom_eq_some_iff]
  constructor
  · rintro ⟨lead, tail, rest, rfl, captures⟩
    obtain ⟨rfl, known, rfl⟩ := captures_playerPath.1 captures
    exact ⟨known, rest, by simp⟩
  · rintro ⟨known, rest, rfl⟩
    exact ⟨_, ['/'], rest, by simp, captures_playerPath.2 ⟨rfl, known, rfl⟩⟩

/-! ### Search part by part -/

theorem exists_of_append {front rest : List Char} (free : ∀ c ∈ front, Url.endsPath c = false)
    (ends : ys.head?.all Url.endsPath = true) (whole : xs ++ ys = front ++ rest) :
    ∃ rest', xs = front ++ rest' := by
  rcases List.append_eq_append_iff.1 whole with ⟨middle, rfl, rfl⟩ | ⟨middle, rfl, -⟩
  · cases middle with
    | nil => exact ⟨[], by simp⟩
    | cons c middle =>
      have mark : Url.endsPath c = true := by simpa using ends
      rw [free c (by simp)] at mark
      cases mark
  · exact ⟨middle, rfl⟩

theorem endsPath_segment (known : IsId id) :
    ∀ c ∈ "/s/player/".toList ++ id ++ ['/'], Url.endsPath c = false := by
  have fixed : "/s/player/".toList.all (!Url.endsPath ·) = true := by decide
  intro c member
  rw [List.mem_append, List.mem_append] at member
  rcases member with (before | inside) | slash
  · simpa using List.all_eq_true.1 fixed c before
  · exact (Url.isIdChar_plain (List.all_eq_true.1 known.2 c inside)).2.2.1
  · rw [List.mem_singleton.1 slash]
    rfl

theorem matchFrom_append (ends : ys.head?.all Url.endsPath = true) :
    matchFrom [] playerPath (xs ++ ys) = matchFrom [] playerPath xs := by
  refine Option.ext fun id => ?_
  rw [matchFrom_playerPath, matchFrom_playerPath]
  refine and_congr_right fun known => ?_
  constructor
  · rintro ⟨rest, whole⟩
    rw [← List.singleton_append, ← List.append_assoc] at whole
    obtain ⟨rest', rfl⟩ := exists_of_append (endsPath_segment known) ends whole
    exact ⟨rest', by rw [List.append_assoc, List.singleton_append]⟩
  · rintro ⟨rest, rfl⟩
    exact ⟨rest ++ ys, by simp⟩

theorem search?_cons {c : Char} : playerPath.search? (c :: cs) =
    (matchFrom [] playerPath (c :: cs)).or (playerPath.search? cs) :=
  firstSuffix?_cons

theorem search?_append (ends : ys.head?.all Url.endsPath = true) :
    playerPath.search? (xs ++ ys) = (playerPath.search? xs).or (playerPath.search? ys) := by
  induction xs with
  | nil => rfl
  | cons c xs ih =>
    rw [List.cons_append, search?_cons, search?_cons, ih, ← List.cons_append,
      matchFrom_append ends, Option.or_assoc]

theorem search?_skip (free : '/' ∉ xs) : playerPath.search? (xs ++ ys) = playerPath.search? ys := by
  induction xs with
  | nil => rfl
  | cons c xs ih =>
    rw [List.mem_cons, not_or] at free
    have here : matchFrom [] playerPath (c :: (xs ++ ys)) = none := by
      refine Option.eq_none_iff_forall_ne_some.2 fun id found => ?_
      obtain ⟨-, rest, whole⟩ := matchFrom_playerPath.1 found
      exact free.1 (List.cons.inj whole).1.symm
    rw [List.cons_append, search?_cons, here, ih free.2, Option.none_or]

end ScriptVersion

namespace Url

open ScriptVersion

variable {url : Url}

def IsWeb (url : Url) : Prop :=
  url.scheme = "http".toList ∨ url.scheme = "https".toList

/-- Query and fragment with their marks. -/
def behind (url : Url) : List Char :=
  marked '?' url.query ++ marked '#' url.fragment

theorem behind_ends (url : Url) : url.behind.head?.all endsPath = true := by
  unfold behind marked
  cases url.query <;> cases url.fragment <;> rfl

theorem text_eq (url : Url) :
    url.text = url.scheme ++ ':' :: (url.authority ++ (url.path.text ++ url.behind)) := by
  simp [Url.text, behind]

/-- A host that is the `s` of a segment, the second slash before it the one that begins the
segment. -/
structure HostGives (url : Url) (id : List Char) : Prop where
  isId : IsId id
  authority : url.authority = "//s".toList
  path : ∃ rest, url.path.text = "/player/".toList ++ id ++ '/' :: rest

theorem matchFrom_site (rooted : url.IsRooted) {site : List Char}
    (written : url.authority = '/' :: '/' :: site) (free : '/' ∉ site) {id : List Char} :
    matchFrom [] playerPath ('/' :: (site ++ url.path.text)) = some id ↔ url.HostGives id := by
  rw [matchFrom_playerPath]
  constructor
  · rintro ⟨known, rest, whole⟩
    obtain ⟨path, spelled⟩ := rooted.path_text
    have same : site ++ '/' :: path = ['s'] ++ '/' :: ("player/".toList ++ id ++ '/' :: rest) := by
      rw [← spelled]
      exact (List.cons.inj whole).2
    -- the first slash behind the host begins the path, so the host is what the match has before it
    rcases append_cons_split free same with ⟨rfl, rfl⟩ | ⟨left, lone, -⟩
    · exact ⟨known, written, rest, spelled⟩
    · have member : '/' ∈ ['s'] := by
        rw [lone]
        simp
      exact absurd member (by decide)
  · rintro ⟨known, authority, rest, path⟩
    rw [written] at authority
    obtain rfl : site = ['s'] := (List.cons.inj (List.cons.inj authority).2).2
    exact ⟨known, rest, by rw [path]; rfl⟩

/-- What is found in the whole text: the segment of the host, else the first one of the path, else
the first one behind the path. -/
theorem search?_text (web : url.IsWeb) {site : List Char}
    (written : url.authority = '/' :: '/' :: site) (free : '/' ∉ site) :
    playerPath.search? url.text =
      (matchFrom [] playerPath ('/' :: (site ++ url.path.text))).or
        ((playerPath.search? url.path.text).or (playerPath.search? url.behind)) := by
  have noScheme : '/' ∉ url.scheme ++ [':'] := by
    rcases web with scheme | scheme <;> rw [scheme] <;> decide
  -- the first of the two slashes begins no segment, as the other one follows it
  have doubled (rest : List Char) : matchFrom [] playerPath ('/' :: '/' :: rest) = none := rfl
  have whole : url.text =
      (url.scheme ++ [':']) ++ '/' :: '/' :: (site ++ url.path.text ++ url.behind) := by
    simp [text_eq, written]
  have second : matchFrom [] playerPath ('/' :: (site ++ url.path.text ++ url.behind)) =
      matchFrom [] playerPath ('/' :: (site ++ url.path.text)) := by
    rw [← List.cons_append, matchFrom_append url.behind_ends]
  have left : playerPath.search? (site ++ url.path.text ++ url.behind) =
      (playerPath.search? url.path.text).or (playerPath.search? url.behind) := by
    rw [List.append_assoc, search?_skip free, search?_append url.behind_ends]
  rw [whole, search?_skip noScheme, search?_cons, doubled, Option.none_or, search?_cons, second,
    left]

/-! ### Versions -/

/-- The version that a URL has by its path: the id of the first segment, or all of the text. -/
def PathGives (url : Url) (version : ScriptVersion) : Prop :=
  (∃ first : Occurrence playerPath url.path.text, first.IsLeftmost ∧
    version = ⟨String.ofList first.run⟩) ∨
  IsEmpty (Occurrence playerPath url.path.text) ∧ version = ⟨url.render⟩

/-- The host is no part of a segment, and what follows a path without an id has none either. -/
structure PathDecides (url : Url) : Prop where
  host : ∀ id, ¬ url.HostGives id
  behind : IsEmpty (Occurrence playerPath url.path.text) →
    IsEmpty (Occurrence playerPath url.behind)

theorem IsRead.isRooted (read : url.IsRead) (web : url.IsWeb) : url.IsRooted :=
  read.isSound (by rcases web with scheme | scheme <;> rw [scheme] <;> decide)

theorem ofUrl_render (url : Url) : ofUrl url.render =
    ((playerPath.search? url.text).map fun id => ⟨String.ofList id⟩).getD ⟨url.render⟩ := by
  unfold ofUrl
  rw [Url.render, String.toList_ofList]
  cases playerPath.search? url.text <;> rfl

theorem ofUrl_host (read : url.IsRead) (web : url.IsWeb) {id : List Char}
    (gives : url.HostGives id) : ofUrl url.render = ⟨String.ofList id⟩ := by
  have rooted := read.isRooted web
  obtain ⟨site, written, free⟩ := rooted.authority
  rw [ofUrl_render, search?_text web written free,
    (matchFrom_site rooted written free).2 gives]
  rfl

theorem search?_text_of_host (read : url.IsRead) (web : url.IsWeb)
    (host : ∀ id, ¬ url.HostGives id) : playerPath.search? url.text =
      (playerPath.search? url.path.text).or (playerPath.search? url.behind) := by
  have rooted := read.isRooted web
  obtain ⟨site, written, free⟩ := rooted.authority
  have apart : matchFrom [] playerPath ('/' :: (site ++ url.path.text)) = none :=
    Option.eq_none_iff_forall_ne_some.2 fun id found =>
      host id ((matchFrom_site rooted written free).1 found)
  rw [search?_text web written free, apart, Option.none_or]

theorem ofUrl_behind (read : url.IsRead) (web : url.IsWeb) (host : ∀ id, ¬ url.HostGives id)
    (absent : IsEmpty (Occurrence playerPath url.path.text))
    {first : Occurrence playerPath url.behind} (leftmost : first.IsLeftmost) :
    ofUrl url.render = ⟨String.ofList first.run⟩ := by
  have found := playerPath_unambiguous.search?_eq_some_iff.2 ⟨first, rfl, leftmost⟩
  rw [ofUrl_render, search?_text_of_host read web host,
    playerPath_unambiguous.search?_eq_none_iff.2 absent, found]
  rfl

theorem pathGives_iff (read : url.IsRead) (web : url.IsWeb) (decides : url.PathDecides)
    {version : ScriptVersion} : url.PathGives version ↔ ofUrl url.render = version := by
  rw [ofUrl_render, search?_text_of_host read web decides.host]
  unfold PathGives
  cases found : playerPath.search? url.path.text with
  | some id =>
    obtain ⟨first, rfl, leftmost⟩ := playerPath_unambiguous.search?_eq_some_iff.1 found
    constructor
    · rintro (⟨other, leftmost', rfl⟩ | ⟨absent, -⟩)
      · have found' := playerPath_unambiguous.search?_eq_some_iff.2 ⟨other, rfl, leftmost'⟩
        rw [found] at found'
        rw [← Option.some.inj found']
        rfl
      · exact absent.elim first
    · rintro rfl
      exact .inl ⟨first, leftmost, rfl⟩
  | none =>
    have absent := playerPath_unambiguous.search?_eq_none_iff.1 found
    rw [playerPath_unambiguous.search?_eq_none_iff.2 (decides.behind absent)]
    constructor
    · rintro (⟨first, -⟩ | ⟨-, rfl⟩)
      · exact absent.elim first
      · rfl
    · rintro rfl
      exact .inr ⟨absent, rfl⟩

theorem exists_ofUrl_scriptUrl {page base text : String}
    (found : PlayerPage.scriptUrl page base = .ok text) :
    ∃ url : Url, url.IsRead ∧ url.render = text ∧ (url.IsWeb → url.PathDecides →
      ∀ version, url.PathGives version ↔ ofUrl text = version) := by
  obtain ⟨url, read, rfl⟩ := PlayerPage.exists_of_scriptUrl found
  exact ⟨url, read, rfl, fun web decides _ => pathGives_iff read web decides⟩

theorem run_ne_text {text : List Char} (first : Occurrence playerPath text) (url : Url) :
    first.run ≠ url.text := by
  intro same
  have colon : ':' ∈ first.run := by
    rw [same, text_eq]
    simp
  obtain ⟨-, known, -⟩ := captures_playerPath.1 first.captures
  exact absurd (List.all_eq_true.1 known.2 _ colon) (by decide)

theorem ofUrl_eq_iff {other : Url} (read : url.IsRead) (web : url.IsWeb)
    (decides : url.PathDecides) (read' : other.IsRead) (web' : other.IsWeb)
    (decides' : other.PathDecides) :
    ofUrl url.render = ofUrl other.render ↔ url.render = other.render ∨
      ∃ (first : Occurrence playerPath url.path.text)
        (second : Occurrence playerPath other.path.text),
        first.IsLeftmost ∧ second.IsLeftmost ∧ first.run = second.run := by
  have own {version : ScriptVersion} : url.PathGives version ↔ ofUrl url.render = version :=
    pathGives_iff read web decides
  have others {version : ScriptVersion} : other.PathGives version ↔
    ofUrl other.render = version := pathGives_iff read' web' decides'
  constructor
  · intro same
    rcases own.2 rfl with ⟨first, leftmost, id⟩ | ⟨absent, text⟩
    · rcases others.2 rfl with ⟨second, leftmost', id'⟩ | ⟨-, text'⟩
      · rw [id, id', ScriptVersion.mk.injEq, String.ofList_inj] at same
        exact .inr ⟨first, second, leftmost, leftmost', same⟩
      · rw [id, text', ScriptVersion.mk.injEq, Url.render, String.ofList_inj] at same
        exact absurd same (run_ne_text first other)
    · rcases others.2 rfl with ⟨second, -, id'⟩ | ⟨-, text'⟩
      · rw [text, id', ScriptVersion.mk.injEq, Url.render, String.ofList_inj] at same
        exact absurd same.symm (run_ne_text second url)
      · rw [text, text', ScriptVersion.mk.injEq] at same
        exact .inl same
  · rintro (same | ⟨first, second, leftmost, leftmost', same⟩)
    · rw [same]
    · rw [own.1 (.inl ⟨first, leftmost, rfl⟩), others.1 (.inl ⟨second, leftmost', rfl⟩), same]

end Url

namespace ScriptVersion

/-- The version of a URL of the web that is read. If the path decides, it is the id of the first
segment of the path, or all of the text, and another such URL has the same version just if it has
the same first id or the same text. Else it is an id that begins at the host or behind the path. -/
theorem ofUrl_path {url : Url} (read : url.IsRead) (web : url.IsWeb) :
    (url.PathDecides →
      (∀ version, url.PathGives version ↔ ofUrl url.render = version) ∧
      ∀ other : Url, other.IsRead → other.IsWeb → other.PathDecides →
        (ofUrl url.render = ofUrl other.render ↔ url.render = other.render ∨
          ∃ (first : Occurrence playerPath url.path.text)
            (second : Occurrence playerPath other.path.text),
            first.IsLeftmost ∧ second.IsLeftmost ∧ first.run = second.run)) ∧
    (∀ id, url.HostGives id → ofUrl url.render = ⟨String.ofList id⟩) ∧
    ((∀ id, ¬ url.HostGives id) → IsEmpty (Occurrence playerPath url.path.text) →
      ∀ first : Occurrence playerPath url.behind, first.IsLeftmost →
        ofUrl url.render = ⟨String.ofList first.run⟩) := by
  refine ⟨fun decides => ⟨fun version => Url.pathGives_iff read web decides, ?_⟩, ?_, ?_⟩
  · exact fun other read' web' decides' => Url.ofUrl_eq_iff read web decides read' web' decides'
  · exact fun id gives => Url.ofUrl_host read web gives
  · exact fun host absent first leftmost => Url.ofUrl_behind read web host absent leftmost

/-- A slash in place of an id makes no segment, and the query does not count. -/
theorem ofUrl_path_query :
    let text := "https://www.youtube.com/s/player//s/player/0a1b/base.js?u=/s/player/zz/"
    ∃ url : Url, url.IsRead ∧ url.IsWeb ∧ url.PathDecides ∧ url.render = text ∧
      ofUrl text = ⟨"0a1b"⟩ := by
  intro text
  have plain : Url.IsPlainName "www.youtube.com".toList :=
    ⟨by decide, by decide, by decide, by decide⟩
  have spelled : lower "https://www.youtube.com".toList =
      "https://".toList ++ "www.youtube.com".toList := by decide
  let tail := "/s/player//s/player/0a1b/base.js?u=/s/player/zz/".toList
  let url := Url.ofSite "www.youtube.com".toList tail
  have visible : tail.all Url.isVisible = true := by decide
  have read : url.IsRead := .parse (Url.parse_site plain spelled visible rfl)
  have web : url.IsWeb := .inr rfl
  have found : playerPath.search? url.path.text = some "0a1b".toList := by decide
  obtain ⟨first, id, leftmost⟩ := playerPath_unambiguous.search?_eq_some_iff.1 found
  have decides : url.PathDecides :=
    ⟨fun id gives => absurd gives.authority (by decide), fun absent => absent.elim first⟩
  have render : url.render = text := by decide
  have version := (((ofUrl_path read web).1 decides).1 _).1 (.inl ⟨first, leftmost, rfl⟩)
  rw [render, id] at version
  exact ⟨url, read, web, decides, render, version⟩

/-- A query that holds a segment gives a script without an id the version of another script. -/
theorem ofUrl_query :
    let text := "https://cdn.example.com/base.js?u=/s/player/abc/"
    ∃ url : Url, url.IsRead ∧ url.IsWeb ∧ url.render = text ∧
      IsEmpty (Occurrence playerPath url.path.text) ∧ ofUrl text ≠ ⟨text⟩ ∧
      ofUrl text = ofUrl "https://www.youtube.com/s/player/abc/base.js" := by
  intro text
  have plain : Url.IsPlainName "cdn.example.com".toList :=
    ⟨by decide, by decide, by decide, by decide⟩
  have spelled : lower "https://cdn.example.com".toList =
      "https://".toList ++ "cdn.example.com".toList := by decide
  let tail := "/base.js?u=/s/player/abc/".toList
  have visible : tail.all Url.isVisible = true := by decide
  have read : Url.IsRead (.ofSite "cdn.example.com".toList tail) :=
    .parse (Url.parse_site plain spelled visible rfl)
  refine ⟨_, read, .inr rfl, by decide, ?_, by decide, by decide⟩
  exact playerPath_unambiguous.search?_eq_none_iff.1 (by decide)

end ScriptVersion

end PlayerCipher
