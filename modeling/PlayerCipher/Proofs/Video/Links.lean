import PlayerCipher.Proofs.Text.Search
import PlayerCipher.Proofs.Url.Site
import PlayerCipher.Video

/-! Ways to name a video.
A video is named by its id, by a short link, by a page of one of three kinds with the id in its
path, or by a watch page with the id as its first parameter `v`; scheme and host stand in any letter
case. Each way gives the id back, and so does the watch page that is asked for, whatever text the id
is. -/

namespace PlayerCipher.Video

open Text Url

variable {origin tail text : List Char} {host video : String} {url : Url}

/-! ### Pages of hosts -/

theorem id_of_parse (parsed : Url.parse video = .ok url) :
    Video.id video = (pageId url).mapError fun fault => .noVideo fault.message := by
  have named : isRawId video.toList = false := by
    by_contra raw
    simp only [isRawId, Bool.not_eq_false, Bool.and_eq_true] at raw
    exact absurd (List.all_eq_true.1 raw.2 _ (colon_of_parse parsed)) (by decide)
  rw [Video.id, named]
  simp only [Bool.false_eq_true, if_false, parsed]
  cases pageId url <;> rfl

theorem pageId_short (named : url.hostText = some "youtu.be") :
    pageId url = if (url.path.text.dropWhile (· == '/')).isEmpty then .error .missingId
      else .ok (String.ofList (url.path.text.dropWhile (· == '/'))) := by
  simp only [pageId, named, if_true]

theorem pageId_site (named : url.hostText = some host) (site : host ∈ siteHosts) :
    pageId url = if "/watch".toList <+: url.path.text then watchId url
      else sectionId url.path.text sections := by
  have other : host ≠ "youtu.be" := by
    rintro rfl
    exact absurd site (by decide)
  simp only [pageId, named, if_neg other, List.contains_iff_mem, site, if_true,
    List.isPrefixOf_iff_prefix]

theorem sectionId_page {sectionName : String} (among : sectionName ∈ sections) (id : List Char) :
    sectionId ('/' :: (sectionName.toList ++ '/' :: id)) sections =
      if id = [] then .error (.missingIdIn sectionName) else .ok (String.ofList id) := by
  simp only [sections, List.mem_cons, List.not_mem_nil, or_false] at among
  obtain rfl | rfl | rfl := among
  all_goals cases id <;> simp [sections, sectionId, after?]

theorem pageId_section {sectionName : String} {id : List Char}
    (named : url.hostText = some host) (site : host ∈ siteHosts) (among : sectionName ∈ sections)
    (path : url.path.text = '/' :: (sectionName.toList ++ '/' :: id)) :
    pageId url = if id = [] then .error (.missingIdIn sectionName) else .ok (String.ofList id) := by
  have other : ¬ "/watch".toList <+: '/' :: (sectionName.toList ++ '/' :: id) := by
    simp only [sections, List.mem_cons, List.not_mem_nil, or_false] at among
    obtain rfl | rfl | rfl := among
    all_goals simp
  rw [pageId_site named site, path, if_neg other, sectionId_page among]

theorem isPlainName_host : ∀ host ∈ "youtu.be" :: siteHosts, IsPlainName host.toList := by
  simp only [siteHosts, List.forall_mem_cons, List.not_mem_nil, false_implies, implies_true,
    and_true]
  refine ⟨?_, ?_, ?_, ?_⟩
  all_goals exact ⟨by decide, by decide, by decide, by decide⟩

theorem hostText_ofSite (known : host ∈ "youtu.be" :: siteHosts) (tail : List Char) :
    (ofSite host.toList tail).hostText = some host := by
  have nonempty : host.toList.isEmpty = false :=
    List.isEmpty_eq_false_iff.2 (isPlainName_host host known).nonempty
  simp [hostText, ofSite, Host.text, nonempty]

theorem id_link (known : host ∈ "youtu.be" :: siteHosts)
    (spelled : lower origin = "https://".toList ++ host.toList)
    (visible : tail.all isVisible = true)
    (ends : tail.head?.all (fun c => isSlash .special c || endsPath c) = true) :
    Video.id (String.ofList (origin ++ tail)) =
      (pageId (ofSite host.toList tail)).mapError fun fault => .noVideo fault.message :=
  id_of_parse (parse_site (isPlainName_host host known) spelled visible ends)

/-! ### Watch pages -/

def watchPage (name : List Char) : Url :=
  { ofSite name [] with path := .segments ["watch".toList] }

theorem ofSite_watch (name : List Char) (pairs : List Form.Pair) :
    ofSite name ("/watch?".toList ++ Form.write pairs) = (watchPage name).withPairs pairs := by
  have plain : ∀ text ∈ ["watch".toList], text.all isIdChar = true := by decide
  have ends : ('?' :: Form.write pairs).head?.all endsPath = true := rfl
  have path : readPathStart .special ("/watch?".toList ++ Form.write pairs) = ["watch".toList] :=
    readPath_plain (List.cons_ne_nil _ []) plain ends
  have inside : "/watch".toList.all (!endsPath ·) = true := by decide
  have stops : ('?' :: Form.write pairs).head?.any (!endsPath ·) = false := rfl
  have left : ("/watch?".toList ++ Form.write pairs).dropWhile (!endsPath ·) =
      '?' :: Form.write pairs := (Lexeme.takeWhile_run inside stops).2
  rw [ofSite, path, left, readQuery_form (Form.all_isFormChar_write pairs)]
  rfl

theorem id_watch (site : host ∈ siteHosts)
    (spelled : lower origin = "https://".toList ++ host.toList) (pairs : List Form.Pair) :
    Video.id (String.ofList (origin ++ ("/watch?".toList ++ Form.write pairs))) =
      match pairs.find? fun pair => pair.1 == ['v'] with
      | some pair => .ok (String.ofList pair.2)
      | none => .error (.noVideo Fault.missingParameter.message) := by
  have known : host ∈ "youtu.be" :: siteHosts := List.mem_cons_of_mem _ site
  have named : ((watchPage host.toList).withPairs pairs).hostText = some host :=
    hostText_ofSite known []
  have visible : ("/watch?".toList ++ Form.write pairs).all isVisible = true := by
    rw [List.all_append, Bool.and_eq_true]
    exact ⟨by decide, List.all_eq_true.2 fun c member =>
      (isFormChar_plain (List.all_eq_true.1 (Form.all_isFormChar_write pairs) c member)).1⟩
  have watch : "/watch".toList <+: ((watchPage host.toList).withPairs pairs).path.text :=
    (by decide : "/watch".toList <+: (Path.segments ["watch".toList]).text)
  have given : ((watchPage host.toList).withPairs pairs).pairs = pairs := Form.read_write pairs
  rw [id_link known spelled visible rfl, ofSite_watch, pageId_site named site, if_pos watch,
    watchId, given]
  cases pairs.find? fun pair => pair.1 == ['v'] <;> rfl

theorem lower_site : ∀ host ∈ siteHosts,
    lower ("https://".toList ++ host.toList) = "https://".toList ++ host.toList := by
  decide

theorem join_watch (name : List Char) :
    (ofSite name []).join "/watch" = .ok (watchPage name) := by
  rfl

theorem render_watch (name : List Char) (pairs : List Form.Pair) :
    ((watchPage name).withPairs pairs).render =
      String.ofList ("https://".toList ++ name ++ ("/watch?".toList ++ Form.write pairs)) := by
  simp [render, Url.text, authority, credentials, marked, watchPage, withPairs, ofSite, Host.text,
    Path.text, readQuery, readFragment]

theorem watchUrl_site (site : host ∈ siteHosts) {slash : String} (optional : slash ∈ ["", "/"])
    (id : String) : watchUrl ("https://" ++ host ++ slash) id =
      .ok (String.ofList ("https://".toList ++ host.toList ++
        ("/watch?".toList ++ Form.write [(['v'], id.toList)]))) := by
  have known : host ∈ "youtu.be" :: siteHosts := List.mem_cons_of_mem _ site
  have parsed : Url.parse ("https://" ++ host ++ slash) = .ok (ofSite host.toList []) := by
    have written : "https://" ++ host ++ slash =
        String.ofList ("https://".toList ++ host.toList ++ slash.toList) := by
      simp [← String.toList_inj]
    rw [written]
    simp only [List.mem_cons, List.not_mem_nil, or_false] at optional
    obtain rfl | rfl := optional
    all_goals exact parse_site (isPlainName_host host known) (lower_site host site) rfl rfl
  simp only [watchUrl, parsed, join_watch, render_watch]

/-! ### Every way to name a video -/

/-- Ways to name the video with this id: the bare id, and links with scheme and host in any letter
case. -/
inductive Names (id : List Char) : List Char → Prop
  | bare (length : id.length = 11) : Names id id
  | short {origin : List Char} (spelled : lower origin = "https://youtu.be".toList) :
    Names id (origin ++ '/' :: id)
  | page {origin : List Char} {host sectionName : String} (site : host ∈ siteHosts)
    (spelled : lower origin = "https://".toList ++ host.toList) (known : sectionName ∈ sections) :
    Names id (origin ++ ('/' :: (sectionName.toList ++ '/' :: id)))
  | watch {origin : List Char} {host : String} (site : host ∈ siteHosts)
    (spelled : lower origin = "https://".toList ++ host.toList) (before after : List Form.Pair)
    (plain : ∀ pair ∈ before ++ after, pair.1.all isIdChar = true ∧ pair.2.all isIdChar = true)
    (first : ∀ pair ∈ before, pair.1 ≠ ['v']) :
    Names id (origin ++ ("/watch?".toList ++
      ['&'].intercalate ((before ++ (['v'], id) :: after).map fun pair => pair.1 ++ '=' :: pair.2)))

theorem id_segments {segments : List (List Char)} (known : host ∈ "youtu.be" :: siteHosts)
    (spelled : lower origin = "https://".toList ++ host.toList) (nonempty : segments ≠ [])
    (plain : ∀ segment ∈ segments, segment.all isIdChar = true) :
    ∃ url : Url, url.hostText = some host ∧ url.path.text = '/' :: ['/'].intercalate segments ∧
      Video.id (String.ofList (origin ++ '/' :: ['/'].intercalate segments)) =
        (pageId url).mapError fun fault => .noVideo fault.message :=
  ⟨_, hostText_ofSite known _, path_ofSite nonempty plain,
    id_link known spelled (all_isVisible_segments plain) rfl⟩

theorem id_short {id : List Char} (nonempty : id ≠ []) (plain : id.all isIdChar = true)
    (spelled : lower origin = "https://youtu.be".toList) :
    Video.id (String.ofList (origin ++ '/' :: id)) = .ok (String.ofList id) := by
  have segments : ∀ segment ∈ [id], segment.all isIdChar = true :=
    List.forall_mem_singleton.2 plain
  obtain ⟨url, named, path, links⟩ :=
    id_segments (List.mem_cons_self ..) spelled (List.cons_ne_nil id []) segments
  rw [List.intercalate_singleton] at path links
  have slashless : id.dropWhile (· == '/') = id := by
    obtain ⟨first, others, rfl⟩ := List.exists_cons_of_ne_nil nonempty
    rw [List.all_cons, Bool.and_eq_true] at plain
    have other : first ≠ '/' := by
      rintro rfl
      exact absurd plain.1 (by decide)
    rw [List.dropWhile_cons_of_neg (by simpa using other)]
  have id_eq : url.path.text.dropWhile (· == '/') = id := by
    rw [path, List.dropWhile_cons_of_pos (by decide), slashless]
  rw [links, pageId_short named, id_eq, if_neg (by simpa using nonempty)]
  rfl

theorem plain_sections : ∀ sectionName ∈ sections, sectionName.toList.all isIdChar = true := by
  decide

theorem id_section {id : List Char} {sectionName : String} (nonempty : id ≠ [])
    (plain : id.all isIdChar = true) (site : host ∈ siteHosts)
    (spelled : lower origin = "https://".toList ++ host.toList) (among : sectionName ∈ sections) :
    Video.id (String.ofList (origin ++ ('/' :: (sectionName.toList ++ '/' :: id)))) =
      .ok (String.ofList id) := by
  have segments : ∀ segment ∈ [sectionName.toList, id], segment.all isIdChar = true :=
    List.forall_mem_cons.2 ⟨plain_sections _ among, List.forall_mem_singleton.2 plain⟩
  have written : ['/'].intercalate [sectionName.toList, id] = sectionName.toList ++ '/' :: id := by
    simp
  obtain ⟨url, named, path, links⟩ :=
    id_segments (List.mem_cons_of_mem _ site) spelled (List.cons_ne_nil _ _) segments
  rw [written] at path links
  rw [links, pageId_section named site among path, if_neg nonempty]
  rfl

theorem id_names {id : List Char} (nonempty : id ≠ []) (plain : id.all isIdChar = true)
    (names : Names id text) : Video.id (String.ofList text) = .ok (String.ofList id) := by
  cases names with
  | bare length =>
    rw [Video.id, if_pos]
    simp [isRawId, length, plain]
  | short spelled => exact id_short nonempty plain spelled
  | page site spelled known => exact id_section nonempty plain site spelled known
  | watch site spelled before after chars first =>
    -- nothing in the pieces needs an encoding, so together they are a written form
    have written : ['&'].intercalate ((before ++ (['v'], id) :: after).map fun pair =>
        pair.1 ++ '=' :: pair.2) = Form.write (before ++ (['v'], id) :: after) := by
      rw [Form.write_eq_intercalate]
      refine congrArg _ (List.map_congr_left fun pair member => ?_)
      have parts : pair.1.all isIdChar = true ∧ pair.2.all isIdChar = true := by
        rw [List.mem_append, List.mem_cons] at member
        obtain front | rfl | back := member
        · exact chars pair (List.mem_append_left _ front)
        · exact ⟨rfl, plain⟩
        · exact chars pair (List.mem_append_right _ back)
      rw [Form.writePair, Form.encode_plain parts.1, Form.encode_plain parts.2]
    have found : (before ++ (['v'], id) :: after).find? (fun pair => pair.1 == ['v']) =
        some (['v'], id) := by
      refine List.find?_eq_some_iff_append.2 ⟨rfl, before, after, rfl, fun pair member => ?_⟩
      simpa using first pair member
    rw [written, id_watch site spelled, found]

/-- A video is found by its watch page, whatever text its id is, and, if the id is made of
characters of ids, by every way to name it. -/
theorem id_written (id : String) (nonempty : id ≠ "") :
    (∀ host ∈ siteHosts, ∀ slash ∈ ["", "/"], ∃ page,
      watchUrl ("https://" ++ host ++ slash) id = .ok page ∧ Video.id page = .ok id) ∧
    (id.toList.all isIdChar = true →
      ∀ text, Names id.toList text → Video.id (String.ofList text) = .ok id) := by
  refine ⟨fun host site slash optional => ⟨_, watchUrl_site site optional id, ?_⟩,
    fun plain text names => ?_⟩
  · rw [id_watch site (lower_site host site) [(['v'], id.toList)]]
    simp
  · have letters : id.toList ≠ [] := by
      simpa using nonempty
    rw [id_names letters plain names, String.ofList_toList]

theorem id_written_links :
    (∃ page, watchUrl "https://m.youtube.com/" "dQw4w9WgXcQ" = .ok page ∧
      Video.id page = .ok "dQw4w9WgXcQ") ∧
    Video.id "HTTPS://YouTu.be/dQw4w9WgXcQ" = .ok "dQw4w9WgXcQ" ∧
    Video.id "https://www.youtube.com/watch?t=10&v=dQw4w9WgXcQ&v=b" = .ok "dQw4w9WgXcQ" := by
  have capitals : lower "HTTPS://YouTu.be".toList = "https://youtu.be".toList := by decide
  have site : "www.youtube.com" ∈ siteHosts := by decide
  obtain ⟨pages, names⟩ := id_written "dQw4w9WgXcQ" (by decide)
  refine ⟨pages "m.youtube.com" (by decide) "/" (by decide), ?_, ?_⟩
  · exact names (by decide) _ (.short capitals)
  · exact names (by decide) _ (.watch site (lower_site _ site) [(['t'], ['1', '0'])]
      [(['v'], ['b'])] (by decide) (by decide))

end PlayerCipher.Video
