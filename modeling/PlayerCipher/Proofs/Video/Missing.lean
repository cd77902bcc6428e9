import PlayerCipher.Proofs.Decipherer.Retention
import PlayerCipher.Proofs.Video.Links

/-! Links that name no video.
A short link, a page of a section or a watch page without its id is refused, each with what it
lacks. A watch page whose first parameter `v` is there and empty is not: it alone gives an empty id,
for which a page is then asked for. -/

namespace PlayerCipher

namespace Video

open Text

variable {fault : Fault} {host video : String} {url : Url}

/-! ### What a link lacks -/

/-- A watch page of a site on which the first parameter `v` is empty. -/
structure IsBlankWatch (url : Url) : Prop where
  site : ∃ host ∈ siteHosts, url.hostText = some host
  watch : "/watch".toList <+: url.path.text
  blank : ∃ before after, url.pairs = before ++ (['v'], []) :: after ∧
    ∀ pair ∈ before, pair.1 ≠ ['v']

def IsBlank (video : String) : Prop :=
  ∃ url, Url.parse video = .ok url ∧ IsBlankWatch url

inductive Lacks (url : Url) : Fault → Prop
  | short (named : url.hostText = some "youtu.be") (empty : ∀ c ∈ url.path.text, c = '/') :
    Lacks url .missingId
  | watch {host : String} (site : host ∈ siteHosts) (named : url.hostText = some host)
    (watch : "/watch".toList <+: url.path.text) (absent : ∀ pair ∈ url.pairs, pair.1 ≠ ['v']) :
    Lacks url .missingParameter
  | page {host sectionName : String} (site : host ∈ siteHosts) (named : url.hostText = some host)
    (among : sectionName ∈ sections) (path : url.path.text = '/' :: (sectionName.toList ++ ['/'])) :
    Lacks url (.missingIdIn sectionName)

theorem pageId_lacks (lacks : Lacks url fault) : pageId url = .error fault := by
  cases lacks with
  | short named empty =>
    have slashes : url.path.text.dropWhile (· == '/') = [] :=
      List.dropWhile_eq_nil_iff.2 fun c member => beq_iff_eq.2 (empty c member)
    rw [pageId_short named, slashes]
    rfl
  | watch site named watch absent =>
    have none : url.pairs.find? (fun pair => pair.1 == ['v']) = none :=
      List.find?_eq_none.2 fun pair member => by simpa using absent pair member
    rw [pageId_site named site, if_pos watch, watchId, none]
  | page site named among path =>
    rw [pageId_section named site among path, if_pos rfl]

/-! ### Empty ids -/

theorem sectionId_nonempty (path : List Char) (names : List String) :
    sectionId path names ≠ .ok "" := by
  induction names with
  | nil => simp [sectionId]
  | cons sectionName names ih =>
    rw [sectionId]
    cases after? ("/" ++ sectionName ++ "/").toList path with
    | none => exact ih
    | some id =>
      cases id with
      | nil => simp
      | cons c id => simp [← String.toList_inj]

theorem watchId_eq_empty_iff : watchId url = .ok "" ↔
    ∃ before after, url.pairs = before ++ (['v'], []) :: after ∧
      ∀ pair ∈ before, pair.1 ≠ ['v'] := by
  have found : watchId url = .ok "" ↔
      url.pairs.find? (fun pair => pair.1 == ['v']) = some (['v'], []) := by
    rw [watchId]
    cases search : url.pairs.find? fun pair => pair.1 == ['v'] with
    | none => simp
    | some pair =>
      obtain ⟨key, value⟩ := pair
      have known : key = ['v'] := by simpa using List.find?_some search
      simp [known, ← String.toList_inj]
  rw [found, List.find?_eq_some_iff_append]
  simp

theorem pageId_eq_empty_iff : pageId url = .ok "" ↔ IsBlankWatch url := by
  constructor
  · intro empty
    cases named : url.hostText with
    | none => simp [pageId, named] at empty
    | some host =>
      -- every branch but that of the watch page looks whether there is an id
      by_cases short : host = "youtu.be"
      · subst short
        rw [pageId_short named] at empty
        split at empty
        · cases empty
        · rename_i nonempty
          have none : url.path.text.dropWhile (· == '/') = [] := by
            simpa [← String.toList_inj] using empty
          exact absurd (List.isEmpty_iff.2 none) nonempty
      · by_cases site : host ∈ siteHosts
        · rw [pageId_site named site] at empty
          split at empty
          · rename_i watch
            exact ⟨⟨host, site, named⟩, watch, watchId_eq_empty_iff.1 empty⟩
          · exact absurd empty (sectionId_nonempty _ _)
        · simp [pageId, named, short, site] at empty
  · rintro ⟨⟨host, site, named⟩, watch, blank⟩
    rw [pageId_site named site, if_pos watch, watchId_eq_empty_iff.2 blank]

theorem id_eq_empty_iff : Video.id video = .ok "" ↔ IsBlank video := by
  constructor
  · intro empty
    cases parsed : Url.parse video with
    | error cause =>
      rw [Video.id] at empty
      split at empty
      · rename_i raw
        cases empty
        cases raw
      · simp only [parsed] at empty
        cases empty
    | ok url =>
      rw [id_of_parse parsed] at empty
      refine ⟨url, parsed, pageId_eq_empty_iff.1 ?_⟩
      cases found : pageId url with
      | ok id =>
        rw [found] at empty
        cases empty
        rfl
      | error fault =>
        rw [found] at empty
        cases empty
  · rintro ⟨url, parsed, blank⟩
    rw [id_of_parse parsed, pageId_eq_empty_iff.2 blank]
    rfl

/-- A link that lacks its id is refused and asks for no page. An empty id comes from blank watch
pages alone, and no page is asked for with an empty id except for these. -/
theorem id_refused_or_blank (video : String) :
    (Video.id video = .ok "" ↔ IsBlank video) ∧
    (∀ url fault, Url.parse video = .ok url → Lacks url fault →
      Video.id video = .error (.noVideo fault.message) ∧
        ∀ d : Decipherer, (d.scriptUrl video).requests = []) ∧
    ∀ d : Decipherer, ∀ page ∈ (d.scriptUrl video).requests, ∃ id, Video.id video = .ok id ∧
      Video.watchUrl d.baseUrl id = .ok page ∧ (id = "" ↔ IsBlank video) := by
  refine ⟨id_eq_empty_iff, fun url fault parsed lacks => ?_, fun d page asked => ?_⟩
  · have refused : Video.id video = .error (.noVideo fault.message) := by
      rw [id_of_parse parsed, pageId_lacks lacks]
      rfl
    refine ⟨refused, fun d => ?_⟩
    rw [Decipherer.scriptUrl_requests, Decipherer.watchUrl, refused]
    rfl
  · rw [Decipherer.scriptUrl_requests, Decipherer.watchUrl] at asked
    cases found : Video.id video with
    | error e =>
      rw [found] at asked
      cases asked
    | ok id =>
      rw [found] at asked
      change page ∈ (Video.watchUrl d.baseUrl id).toOption.toList at asked
      refine ⟨id, rfl, ?_, ?_⟩
      · cases built : Video.watchUrl d.baseUrl id with
        | error e =>
          rw [built] at asked
          cases asked
        | ok text =>
          rw [built] at asked
          rw [List.mem_singleton.1 asked]
      · rw [← id_eq_empty_iff, found]
        simp

theorem id_refused_or_blank_links :
    (Video.id "https://youtu.be/" = .error (.noVideo "Missing video ID") ∧
      ∀ d : Decipherer, (d.scriptUrl "https://youtu.be/").requests = []) ∧
    Video.id "https://m.youtube.com/live/" = .error (.noVideo "Missing video ID in live path") := by
  refine ⟨?_, ?_⟩
  · have spelled : lower "https://youtu.be".toList = "https://".toList ++ "youtu.be".toList := by
      decide
    have visible : ['/'].all Url.isVisible = true := by decide
    have parsed := Url.parse_site (isPlainName_host "youtu.be" (by decide)) spelled visible rfl
    exact (id_refused_or_blank "https://youtu.be/").2.1 _ _ parsed
      (.short (by decide) fun c member => List.mem_singleton.1 member)
  · have site : "m.youtube.com" ∈ siteHosts := by decide
    have live : "live" ∈ sections := by decide
    have known : "m.youtube.com" ∈ "youtu.be" :: siteHosts := List.mem_cons_of_mem _ site
    have visible : "/live/".toList.all Url.isVisible = true := by decide
    have parsed := Url.parse_site (isPlainName_host _ known) (lower_site _ site) visible rfl
    exact ((id_refused_or_blank "https://m.youtube.com/live/").2.1 _ _ parsed
      (.page site (hostText_ofSite known _) live (by decide))).1

/-- A blank watch page gives the empty id, and its page is asked for. -/
theorem id_blank : Video.id "https://www.youtube.com/watch?v=" = .ok "" ∧
    ∀ network choice, (Decipherer.scriptUrl ⟨network, "https://www.youtube.com", choice⟩
      "https://www.youtube.com/watch?v=").requests = ["https://www.youtube.com/watch?v="] := by
  have site : "www.youtube.com" ∈ siteHosts := by decide
  have bare : "" ∈ ["", "/"] := List.mem_cons_self ..
  have empty : Video.id "https://www.youtube.com/watch?v=" = .ok "" :=
    id_watch site (lower_site _ site) [(['v'], [])]
  have page : watchUrl "https://www.youtube.com" "" = .ok "https://www.youtube.com/watch?v=" :=
    watchUrl_site site bare ""
  refine ⟨empty, fun network choice => ?_⟩
  rw [Decipherer.scriptUrl_requests, Decipherer.watchUrl, empty]
  simp only [page]
  rfl

end Video

end PlayerCipher
