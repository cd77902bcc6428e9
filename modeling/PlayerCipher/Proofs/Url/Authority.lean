import PlayerCipher.PlayerPage
import PlayerCipher.Proofs.Url.Site

/-! URLs with a host.
Of a special URL other than a file, the only slashes before the path are the two before the host:
a name holds none, an address is written with digits, and in the credentials it is encoded. What is
read relative to such a URL has its host or one that is read anew. -/

namespace PlayerCipher

open Text

/-! ### Texts without a slash -/

theorem Text.slash_notMem_toDigits {base : ℕ} (least : 1 < base) (most : base ≤ 16) (n : ℕ) :
    '/' ∉ Nat.toDigits base n := by
  have table : ∀ d < 16, '/' ≠ Nat.digitChar d := by decide
  induction n using Nat.strongRecOn with
  | ind n ih =>
    rw [Nat.toDigits_eq_if least]
    split
    · rename_i small
      exact fun member => table n (by omega) (List.mem_singleton.1 member)
    · rename_i large
      have digit : n % base < base := Nat.mod_lt n (by omega)
      have rest : '/' ∉ Nat.toDigits base (n / base) := ih _ (Nat.div_lt_self (by omega) least)
      rw [List.mem_append, List.mem_singleton, not_or]
      exact ⟨rest, table _ (by omega)⟩

theorem Text.slash_notMem_decimal (n : ℕ) : '/' ∉ (decimal n).toList := by
  rw [decimal, String.toList_ofList]
  exact slash_notMem_toDigits (by decide) (by decide) n

theorem Text.joinWith_toList (sep : String) (parts : List String) :
    (joinWith sep parts).toList = sep.toList.intercalate (parts.map String.toList) := by
  fun_induction joinWith sep parts with
  | case1 => rfl
  | case2 part => simp
  | case3 part parts nonempty ih =>
    obtain ⟨next, parts, rfl⟩ := List.exists_cons_of_ne_nil nonempty
    rw [String.toList_append, String.toList_append, ih, List.map_cons, List.map_cons, List.map_cons,
      List.intercalate_cons_cons]
namespace Url

variable {base url : Url} {cs scheme : List Char} {host : Host}

theorem slash_notMem_joinWith {sep : String} (free : '/' ∉ sep.toList) {parts : List String}
    (each : ∀ part ∈ parts, '/' ∉ part.toList) : '/' ∉ (joinWith sep parts).toList := by
  rw [joinWith_toList]
  intro member
  obtain mark | ⟨text, among, inside⟩ := mem_of_mem_intercalate member
  · exact free mark
  · obtain ⟨part, known, rfl⟩ := List.mem_map.1 among
    exact each part known inside

theorem slash_notMem_ipv4 (address : ℕ) : '/' ∉ Ipv4.render address := by
  refine slash_notMem_joinWith (by decide) fun part member => ?_
  obtain ⟨unit, -, rfl⟩ := List.mem_map.1 member
  exact slash_notMem_decimal _

theorem slash_notMem_ipv6 (pieces : List ℕ) : '/' ∉ Ipv6.render pieces := by
  have joined (pieces : List ℕ) : '/' ∉ (joinWith ":" (pieces.map Ipv6.hexText)).toList := by
    refine slash_notMem_joinWith (by decide) fun part member => ?_
    obtain ⟨piece, -, rfl⟩ := List.mem_map.1 member
    rw [Ipv6.hexText, String.toList_ofList]
    exact slash_notMem_toDigits (by decide) (by decide) piece
  have mark : '/' ∉ "::".toList := by decide
  unfold Ipv6.render
  dsimp only
  split
  · exact joined pieces
  · simp only [List.mem_append, not_or]
    exact ⟨⟨joined _, mark⟩, joined _⟩

theorem slash_notMem_percentEncode {set : Char → Bool} (encoded : set '/' = true) (cs : List Char) :
    '/' ∉ percentEncode set cs := by
  have digit (n : ℕ) : '/' ≠ hexDigitUpper n := by
    intro same
    exact absurd (isAlphanum_hexDigitUpper n) (by rw [← same]; decide)
  intro member
  obtain ⟨c, -, inside⟩ := List.mem_flatMap.1 member
  unfold percentChar at inside
  split at inside
  · obtain ⟨byte, -, inside⟩ := List.mem_flatMap.1 inside
    simp [percentByte, digit] at inside
  · rename_i plain
    rw [← List.mem_singleton.1 inside, encoded] at plain
    exact plain rfl

/-! ### Hosts -/

theorem slash_notMem_toAscii? {name domain : List Char}
    (written : Domain.toAscii? name = some domain) : '/' ∉ domain := by
  unfold Domain.toAscii? at written
  obtain ⟨mapped, -, written⟩ := Option.bind_eq_some_iff.1 written
  obtain ⟨labels, -, written⟩ := Option.bind_eq_some_iff.1 written
  dsimp only at written
  split at written
  · cases written
  · rename_i allowed
    cases written
    rw [Bool.or_eq_true, not_or] at allowed
    exact fun member => allowed.1 (List.any_eq_true.2 ⟨'/', member, by decide⟩)

theorem slash_notMem_readDomain (read : readDomain cs = .ok host) : '/' ∉ host.text := by
  unfold readDomain readIpv6 at read
  split at read
  · split at read
    · split at read
      · rename_i pieces _
        cases read
        simp [Host.text, slash_notMem_ipv6 pieces]
      · cases read
    · cases read
  · split at read
    · cases read
    · cases read
    · rename_i domain written
      split at read
      · split at read
        · rename_i address _
          cases read
          exact slash_notMem_ipv4 address
        · cases read
      · cases read
        exact slash_notMem_toAscii? written

theorem exists_of_bind {α β ε : Type} {first : Except ε α} {next : α → Except ε β} {b : β}
    (read : first >>= next = .ok b) : ∃ a, first = .ok a ∧ next a = .ok b := by
  cases first with
  | error e => cases read
  | ok a => exact ⟨a, rfl, read⟩

theorem readDomain_of_readHostPort (special : (SchemeType.of scheme).isSpecial = true)
    {port : Option ℕ} {rest : List Char} (read : readHostPort scheme cs = .ok (host, port, rest)) :
    ∃ name, readDomain name = .ok host := by
  unfold readHostPort at read
  simp only [special, if_true] at read
  split at read
  · cases read
  · obtain ⟨found, domain, read⟩ := exists_of_bind read
    split at read
    · cases read
      exact ⟨_, domain⟩
    · split at read
      · cases read
      · obtain ⟨port, -, read⟩ := exists_of_bind read
        cases read
        exact ⟨_, domain⟩

/-! ### Reading -/

/-- A URL with a host, without a slash in what belongs to it, and with a path that begins with a
slash. -/
structure IsRooted (url : Url) : Prop where
  username : '/' ∉ url.username
  password : '/' ∉ url.password
  host : ∃ host, url.host = some host ∧ '/' ∉ host.text
  path : ∃ segment segments, url.path = .segments (segment :: segments)

/-- The same for URLs whose scheme asks for a host. Of files and of other schemes it says nothing,
so that it holds of every URL that is read. -/
def IsSound (url : Url) : Prop :=
  SchemeType.of url.scheme = .special → IsRooted url

theorem OpenPath.finish_special (path : OpenPath) :
    ∃ segment segments, path.finish .special = segment :: segments := by
  have nonempty : path.segments ≠ [] := by simp [OpenPath.segments]
  exact List.exists_cons_of_ne_nil nonempty

theorem readPathStart_special (cs : List Char) :
    ∃ segment segments, readPathStart .special cs = segment :: segments := by
  cases cs with
  | nil => exact ⟨[], [], rfl⟩
  | cons c cs =>
    by_cases slash : isSlash .special c = true
    · rw [readPathStart, if_pos slash]
      exact OpenPath.finish_special _
    · have rooted : (SchemeType.special.isSpecial || !endsPath c) = true := rfl
      rw [readPathStart, if_neg slash, if_pos rooted]
      exact OpenPath.finish_special _

theorem isSound_readAuthority (read : readAuthority scheme cs = .ok url) : url.IsSound := by
  unfold readAuthority at read
  dsimp only at read
  split at read
  · cases read
  · obtain ⟨⟨host, port, after⟩, found, read⟩ := exists_of_bind read
    dsimp only at read
    split at read
    · cases read
    · cases read
      intro special
      dsimp only at special
      obtain ⟨name, domain⟩ := readDomain_of_readHostPort (by rw [special]; rfl) found
      rw [special]
      obtain ⟨segment, segments, path⟩ := readPathStart_special (after ++ _)
      exact ⟨slash_notMem_percentEncode rfl _, slash_notMem_percentEncode rfl _,
        ⟨host, rfl, slash_notMem_readDomain domain⟩, segment, segments,
        congrArg Path.segments path⟩

theorem isSound_file (host : Host) (path : OpenPath) (cs : List Char) :
    (fileUrl host path cs).IsSound :=
  nofun

namespace IsSound

variable (sound : base.IsSound)
include sound

theorem behind (query fragment : Option (List Char)) : IsSound { base with query, fragment } := by
  intro special
  obtain ⟨username, password, host, path⟩ := sound special
  exact ⟨username, password, host, path⟩

theorem continueFrom (path : OpenPath) (cs : List Char) : (continueFrom base path cs).IsSound := by
  intro special
  obtain ⟨username, password, host, -⟩ := sound special
  have special : SchemeType.of base.scheme = .special := special
  have finished : ∃ segment segments, (path.extend (SchemeType.of base.scheme) cs).finish
      (SchemeType.of base.scheme) = segment :: segments := by
    rw [special]
    exact OpenPath.finish_special _
  obtain ⟨segment, segments, finished⟩ := finished
  exact ⟨username, password, host, segment, segments, congrArg Path.segments finished⟩

theorem readRelative (read : readRelative base cs = .ok url) : url.IsSound := by
  revert read
  fun_cases Url.readRelative base cs with
  | case1 | case3 =>
    rintro ⟨⟩
    exact sound.behind base.query _
  | case2 =>
    rintro ⟨⟩
    exact sound.behind _ _
  | case4 | case5 => exact isSound_readAuthority
  | case6 | case7 =>
    rintro ⟨⟩
    exact sound.continueFrom _ _

end IsSound

theorem isSound_readFileHost (read : readFileHost cs = .ok url) : url.IsSound := by
  unfold readFileHost at read
  dsimp only at read
  split at read
  · cases read
    exact isSound_file _ _ _
  · split at read
    · cases read
      exact isSound_file _ _ _
    · obtain ⟨host, -, read⟩ := exists_of_bind read
      split at read <;>
        · cases read
          exact isSound_file _ _ _

theorem isSound_readFileRoot (base : Option Url) (cs : List Char) :
    (readFileRoot base cs).IsSound := by
  unfold readFileRoot
  dsimp only
  split
  · exact isSound_file _ _ _
  · split
    · exact isSound_file _ _ _
    · exact nofun

theorem isSound_readOther (other : SchemeType.of scheme = .other)
    (read : readOther scheme cs = .ok url) : url.IsSound := by
  unfold readOther at read
  split at read
  · exact isSound_readAuthority read
  · cases read
    intro special
    rw [other] at special
    cases special

variable {site : Option Url} (sound : ∀ base ∈ site, base.IsSound)
include sound

theorem isSound_readFile (read : readFile site cs = .ok url) : url.IsSound := by
  revert read
  fun_cases readFile site cs with
  | case1 => exact isSound_readFileHost
  | case2 =>
    rintro ⟨⟩
    exact isSound_readFileRoot _ _
  | case3 | case6 | case8 =>
    rintro ⟨⟩
    exact isSound_file _ _ _
  | case4 =>
    rintro ⟨⟩
    exact (sound _ rfl).behind _ _
  | case5 _ _ base | case9 _ _ base =>
    rintro ⟨⟩
    exact (sound base rfl).behind base.query _
  | case7 =>
    rintro ⟨⟩
    exact (sound _ rfl).continueFrom _ _

theorem isSound_readAbsolute (read : readAbsolute site scheme cs = .ok url) : url.IsSound := by
  have related : ∀ base ∈ site.filter fun base => base.scheme = scheme, base.IsSound :=
    fun base member => sound base (Option.mem_filter_iff.1 member).1
  unfold readAbsolute at read
  dsimp only at read
  split at read
  · exact isSound_readFile related read
  · split at read
    · rename_i base known
      split at read
      · exact (related base known).readRelative read
      · exact isSound_readAuthority read
    · exact isSound_readAuthority read
  · rename_i other
    exact isSound_readOther other read

theorem isSound_readSchemeless (read : readSchemeless site cs = .ok url) : url.IsSound := by
  revert read
  fun_cases readSchemeless site cs with
  | case1 | case3 => rintro ⟨⟩
  | case2 _ base =>
    rintro ⟨⟩
    exact (sound base rfl).behind base.query _
  | case4 => exact isSound_readFile sound
  | case5 => exact (sound _ rfl).readRelative

theorem isSound_read {text : String} (read : Url.read site text = .ok url) : url.IsSound := by
  unfold Url.read at read
  dsimp only at read
  split at read
  · exact isSound_readAbsolute sound read
  · exact isSound_readSchemeless sound read

omit sound

/-- URLs that texts denote, on their own or on a page whose URL is known. -/
inductive IsRead : Url → Prop
  | parse {text : String} {url : Url} (read : Url.parse text = .ok url) : IsRead url
  | join {base : Url} {text : String} {url : Url} (known : IsRead base)
    (read : base.join text = .ok url) : IsRead url

theorem IsRead.isSound (known : url.IsRead) : url.IsSound := by
  induction known with
  | parse read => exact isSound_read (fun _ member => absurd member (Option.not_mem_none _)) read
  | join known read sound =>
    exact isSound_read (fun base member => Option.mem_some.1 member ▸ sound) read

theorem IsRooted.authority (rooted : url.IsRooted) :
    ∃ site, url.authority = '/' :: '/' :: site ∧ '/' ∉ site := by
  obtain ⟨host, known, free⟩ := rooted.host
  have credentials : '/' ∉ url.credentials := by
    have username := rooted.username
    have password := rooted.password
    unfold Url.credentials
    split_ifs <;> simp [username, password]
  unfold Url.authority
  rw [known]
  cases url.port with
  | none =>
    refine ⟨url.credentials ++ host.text, by simp, ?_⟩
    rw [List.mem_append, not_or]
    exact ⟨credentials, free⟩
  | some port =>
    refine ⟨url.credentials ++ host.text ++ ':' :: (decimal port).toList, rfl, ?_⟩
    simp [credentials, free, slash_notMem_decimal port]

theorem IsRooted.path_text (rooted : url.IsRooted) : ∃ path, url.path.text = '/' :: path := by
  obtain ⟨segment, segments, path⟩ := rooted.path
  rw [path]
  exact ⟨_, rfl⟩

end Url

theorem PlayerPage.exists_of_scriptUrl {page base text : String}
    (found : scriptUrl page base = .ok text) : ∃ url : Url, url.IsRead ∧ url.render = text := by
  unfold scriptUrl at found
  split at found
  · cases found
  · split at found
    · cases found
    · rename_i site parsed
      split at found
      · cases found
      · rename_i url joined
        cases found
        exact ⟨url, .join (.parse parsed) joined, rfl⟩

end PlayerCipher
