import Mathlib
import PlayerCipher.Proofs.Decipherer.Request

/-! What a store learns.
A script brings a cipher under the version it is said to have; a video brings one under the
version of the script its page refers to. A store that has room keeps the first cipher that was
resolved for each version, through every later failure, and a script whose version is known is
not asked for. Sites may change between requests. -/

namespace PlayerCipher

namespace CipherStore

/-- Puts a cipher under a version that has none. -/
def keep (store : CipherStore) (entry : ScriptVersion × Cipher) : CipherStore :=
  match store.get? entry.1 with
  | some _ => store
  | none => store.put entry.1 entry.2

/-- Each version of the store stands there once, and is one of `versions`, for all of which there
is room. -/
structure Roomy (store : CipherStore) (versions : List ScriptVersion) : Prop where
  distinct : (store.entries.map (·.1)).Nodup
  among : store.entries.map (·.1) ⊆ versions
  room : versions.dedup.length ≤ store.capacity

theorem not_mem_of_get?_none {store : CipherStore} {version : ScriptVersion}
    (missing : store.get? version = none) : version ∉ store.entries.map (·.1) := by
  intro member
  obtain ⟨entry, inside, rfl⟩ := List.mem_map.1 member
  rw [get?, Option.map_eq_none_iff, List.find?_eq_none] at missing
  exact missing entry inside (beq_self_eq_true _)

theorem without_of_not_mem {version : ScriptVersion} {entries : List (ScriptVersion × Cipher)}
    (missing : version ∉ entries.map (·.1)) : without version entries = entries := by
  refine List.filter_eq_self.2 fun entry inside => ?_
  rw [bne_iff_ne]
  rintro rfl
  exact missing (List.mem_map_of_mem inside)

def firstCipher? (entries : List (ScriptVersion × Cipher)) (version : ScriptVersion) :
    Option Cipher :=
  (entries.find? fun entry => entry.1 == version).map (·.2)

theorem firstCipher?_cons (entry : ScriptVersion × Cipher)
    (entries : List (ScriptVersion × Cipher)) (version : ScriptVersion) :
    firstCipher? (entry :: entries) version =
      if entry.1 = version then some entry.2 else firstCipher? entries version := by
  by_cases own : entry.1 = version <;> simp [firstCipher?, own]

namespace Roomy

variable {store : CipherStore} {versions : List ScriptVersion}

theorem empty {capacity : Nat} (room : versions.dedup.length ≤ capacity) :
    (CipherStore.empty capacity).Roomy versions :=
  ⟨List.nodup_nil, List.nil_subset _, room⟩

theorem put_entries (roomy : store.Roomy versions) {version : ScriptVersion} (cipher : Cipher)
    (asked : version ∈ versions) (missing : store.get? version = none) :
    (store.put version cipher).entries = (version, cipher) :: store.entries := by
  have fresh := not_mem_of_get?_none missing
  have whole : (version :: store.entries.map (·.1)).Nodup :=
    List.nodup_cons.2 ⟨fresh, roomy.distinct⟩
  have among : version :: store.entries.map (·.1) ⊆ versions.dedup := by
    intro other member
    rw [List.mem_dedup]
    rcases List.mem_cons.1 member with rfl | before
    · exact asked
    · exact roomy.among before
  have fits : store.entries.length + 1 ≤ store.capacity := by
    have bound := (List.subperm_of_subset whole among).length_le
    simp only [List.length_cons, List.length_map] at bound
    exact Nat.le_trans bound roomy.room
  rw [put, without_of_not_mem fresh]
  exact List.take_of_length_le fits

theorem keep (roomy : store.Roomy versions) {entry : ScriptVersion × Cipher}
    (asked : entry.1 ∈ versions) : (store.keep entry).Roomy versions := by
  unfold CipherStore.keep
  cases held : store.get? entry.1 with
  | some cipher => exact roomy
  | none =>
    have entries := roomy.put_entries entry.2 asked held
    constructor
    · rw [entries]
      exact List.nodup_cons.2 ⟨not_mem_of_get?_none held, roomy.distinct⟩
    · rw [entries]
      exact List.cons_subset.2 ⟨asked, roomy.among⟩
    · exact roomy.room

theorem get?_keep (roomy : store.Roomy versions) {entry : ScriptVersion × Cipher}
    (asked : entry.1 ∈ versions) (version : ScriptVersion) :
    (store.keep entry).get? version =
      (store.get? version).or (if entry.1 = version then some entry.2 else none) := by
  unfold CipherStore.keep
  cases held : store.get? entry.1 with
  | some cipher =>
    by_cases own : entry.1 = version
    · simp [← own, held]
    · simp [own]
  | none =>
    show firstCipher? (store.put entry.1 entry.2).entries version = _
    rw [roomy.put_entries entry.2 asked held, firstCipher?_cons]
    by_cases own : entry.1 = version
    · simp [← own, held]
    · simp [own, firstCipher?, get?]

theorem foldl_keep {entries : List (ScriptVersion × Cipher)} (roomy : store.Roomy versions)
    (asked : entries.map (·.1) ⊆ versions) :
    (entries.foldl CipherStore.keep store).Roomy versions ∧
      ∀ version, (entries.foldl CipherStore.keep store).get? version =
        (store.get? version).or (firstCipher? entries version) := by
  induction entries generalizing store with
  | nil => exact ⟨roomy, fun version => Option.or_none.symm⟩
  | cons entry entries ih =>
    obtain ⟨first, rest⟩ := List.cons_subset.1 asked
    obtain ⟨after, held⟩ := ih (roomy.keep first) rest
    refine ⟨after, fun version => ?_⟩
    rw [List.foldl_cons, held, roomy.get?_keep first, Option.or_assoc, firstCipher?_cons]
    split <;> simp

end Roomy

variable {store : CipherStore} {version : ScriptVersion} {resolve : Unit → Fetch Cipher}

theorem getOrResolve_store :
    (store.getOrResolve version resolve).2 =
      ((resolve ()).result.toOption.map (version, ·)).elim store store.keep := by
  cases held : store.get? version with
  | some cipher =>
    rw [getOrResolve_stored held]
    cases (resolve ()).result <;> simp [Except.toOption, keep, held]
  | none =>
    rw [getOrResolve_missing held]
    cases (resolve ()).result <;> simp [Except.toOption, keep, held]

theorem getOrResolve_error {e : Error}
    (failed : (store.getOrResolve version resolve).1.result = .error e) :
    (store.getOrResolve version resolve).2 = store := by
  cases held : store.get? version with
  | some cipher => rw [getOrResolve_stored held]
  | none =>
    rw [getOrResolve_missing held] at failed ⊢
    have unresolved : (resolve ()).result = .error e := failed
    simp only [unresolved]

theorem getOrResolve_ok {cipher : Cipher}
    (found : (store.getOrResolve version resolve).1.result = .ok cipher) :
    store.get? version = some cipher ∨
      store.get? version = none ∧ (resolve ()).result = .ok cipher := by
  cases held : store.get? version with
  | some stored =>
    rw [getOrResolve_stored held] at found
    cases found
    exact .inl rfl
  | none =>
    rw [getOrResolve_missing held] at found
    exact .inr ⟨rfl, found⟩

end CipherStore

namespace Decipherer

variable {d : Decipherer} {store : CipherStore}

theorem scriptUrl_requests (video : String) :
    (d.scriptUrl video).requests = (d.watchUrl video).toOption.toList := by
  unfold scriptUrl
  cases d.watchUrl video with
  | error e => rfl
  | ok page =>
    rw [Fetch.andThen_done_ok, Fetch.requests_andThen_done]
    rfl

theorem scriptUrl_unreachable (unreachable : d.network = .unreachable) (video : String) :
    ∃ e, (d.scriptUrl video).result = .error e := by
  unfold scriptUrl
  cases d.watchUrl video with
  | error e => exact ⟨e, rfl⟩
  | ok page =>
    refine ⟨.noReply .connect, ?_⟩
    rw [Fetch.andThen_done_ok, Fetch.result_andThen, unreachable]
    rfl

theorem cipherAt_requests (url : String) :
    (d.cipherAt store url).1.requests =
      if store.get? (.ofUrl url) = none then [url] else [] := by
  cases held : store.get? (.ofUrl url) with
  | some cipher =>
    rw [cipherAt, CipherStore.getOrResolve_stored held]
    rfl
  | none =>
    rw [cipherAt, CipherStore.getOrResolve_missing held]
    show (d.resolveAt (.ofUrl url) url).requests = [url]
    rw [resolveAt, Fetch.requests_andThen_done, script, Fetch.requests_andThen_done]
    rfl

end Decipherer

theorem Cipher.version_of_ofScript {source : String} {version : ScriptVersion}
    {choice : DriverChoice} {cipher : Cipher}
    (resolved : ofScript source version choice = .ok cipher) : cipher.version = version := by
  unfold ofScript ofTokens at resolved
  dsimp only at resolved
  split at resolved
  · cases resolved
  · split at resolved
    · cases resolved
    · cases resolved
      rfl

inductive Request where
  | script (version : ScriptVersion) (source : String)
  | video (request : VideoRequest)

namespace Request

def serve (request : Request) (d : Decipherer) (store : CipherStore) : Visit Answer :=
  match request with
  | .script version source =>
    let visit := d.scriptCipher store version source
    (visit.1.map .cipher, visit.2)
  | .video request => request.serve d store

/-- The part of a request that ends with its cipher. -/
def visit (request : Request) (d : Decipherer) (store : CipherStore) : Visit Cipher :=
  match request with
  | .script version source => d.scriptCipher store version source
  | .video request =>
    match request.plan with
    | .error e => (.done (.error e), store)
    | .ok plan => d.videoCipher store plan.video

/-- The part of a request that its cipher goes through. -/
def use (request : Request) (cipher : Cipher) : Except Error Answer :=
  match request with
  | .script _ _ => .ok (.cipher cipher)
  | .video request => request.plan >>= fun plan => plan.use cipher

theorem serve_eq (request : Request) (d : Decipherer) (store : CipherStore) :
    request.serve d store =
      ((request.visit d store).1.andThen fun cipher => .done (request.use cipher),
        (request.visit d store).2) := by
  cases request with
  | script version source =>
    simp only [serve, visit, use]
    obtain ⟨⟨requests, result⟩, after⟩ := d.scriptCipher store version source
    cases result <;> simp [Fetch.map, Fetch.andThen, Fetch.done, Except.map]
  | video request =>
    rw [serve, VideoRequest.serve_eq]
    simp only [visit, use]
    cases request.plan <;> rfl

def source? (request : Request) (d : Decipherer) : Option (ScriptVersion × String) :=
  match request with
  | .script version source => some (version, source)
  | .video request =>
    match request.plan with
    | .error _ => none
    | .ok plan =>
      match (d.scriptUrl plan.video).result with
      | .error _ => none
      | .ok url => (Fetch.text d.network url).result.toOption.map (.ofUrl url, ·)

def resolved? (request : Request) (d : Decipherer) : Option (ScriptVersion × Cipher) :=
  request.source? d >>= fun script =>
    (d.resolve script.1 script.2).toOption.map (script.1, ·)

/-- A request fails before it has a version, or goes to the store with one. -/
theorem visit_cases (request : Request) (d : Decipherer) (store : CipherStore) :
    (∃ requests e, request.visit d store = (⟨requests, .error e⟩, store) ∧
      request.resolved? d = none) ∨
    ∃ requests version resolve,
      let looked := store.getOrResolve version resolve
      request.visit d store = (⟨requests, looked.1.result⟩, looked.2) ∧
        request.resolved? d = (resolve ()).result.toOption.map (version, ·) := by
  cases request with
  | script version source =>
    exact .inr ⟨(d.scriptCipher store version source).1.requests, version,
      fun _ => .done (d.resolve version source), rfl, rfl⟩
  | video request =>
    simp only [visit, resolved?, source?]
    cases request.plan with
    | error e => exact .inl ⟨[], e, rfl, rfl⟩
    | ok plan =>
      dsimp only
      cases found : (d.scriptUrl plan.video).result with
      | error e =>
        rw [Decipherer.videoCipher_error found]
        exact .inl ⟨_, e, rfl, rfl⟩
      | ok url =>
        rw [Decipherer.videoCipher_ok found]
        refine .inr ⟨_, .ofUrl url, fun _ => d.resolveAt (.ofUrl url) url, rfl, ?_⟩
        show ((Fetch.text d.network url).result.toOption.map _ >>= _) = _
        rw [Decipherer.resolveAt_result]
        cases (Fetch.text d.network url).result <;> rfl

theorem visit_store (request : Request) (d : Decipherer) (store : CipherStore) :
    (request.visit d store).2 = (request.resolved? d).elim store store.keep := by
  rcases request.visit_cases d store with ⟨requests, e, visited, none⟩ |
    ⟨requests, version, resolve, visited, resolved⟩
  · rw [visited, none]
    rfl
  · rw [visited, resolved]
    exact CipherStore.getOrResolve_store

theorem visit_error {request : Request} {d : Decipherer} {store : CipherStore} {e : Error}
    (failed : (request.visit d store).1.result = .error e) :
    (request.visit d store).2 = store := by
  rcases request.visit_cases d store with ⟨requests, e, visited, none⟩ |
    ⟨requests, version, resolve, visited, resolved⟩
  · rw [visited]
  · rw [visited] at failed ⊢
    exact CipherStore.getOrResolve_error failed

theorem visit_ok {request : Request} {d : Decipherer} {store : CipherStore} {cipher : Cipher}
    (found : (request.visit d store).1.result = .ok cipher) :
    ∃ version, store.get? version = some cipher ∨
      store.get? version = none ∧ request.resolved? d = some (version, cipher) := by
  rcases request.visit_cases d store with ⟨requests, e, visited, none⟩ |
    ⟨requests, version, resolve, visited, resolved⟩
  · rw [visited] at found
    cases found
  · rw [visited] at found
    refine ⟨version, (CipherStore.getOrResolve_ok found).imp_right fun missing => ?_⟩
    rw [resolved, missing.2]
    exact ⟨missing.1, rfl⟩

/-- The URLs that a request asks for. A script is asked for exactly if its URL is found and its
version is not in the store. -/
def asked (request : Request) (d : Decipherer) (store : CipherStore) : List String :=
  match request with
  | .script _ _ => []
  | .video request =>
    match request.plan with
    | .error _ => []
    | .ok plan =>
      (d.watchUrl plan.video).toOption.toList ++
        match (d.scriptUrl plan.video).result with
        | .error _ => []
        | .ok url => if store.get? (.ofUrl url) = none then [url] else []

theorem serve_requests (request : Request) (d : Decipherer) (store : CipherStore) :
    (request.serve d store).1.requests = request.asked d store := by
  rw [serve_eq]
  show ((request.visit d store).1.andThen _).requests = _
  rw [Fetch.requests_andThen_done]
  cases request with
  | script version source =>
    show (d.scriptCipher store version source).1.requests = []
    cases held : store.get? version with
    | some cipher => rw [Decipherer.scriptCipher, CipherStore.getOrResolve_stored held]; rfl
    | none => rw [Decipherer.scriptCipher, CipherStore.getOrResolve_missing held]; rfl
  | video request =>
    simp only [visit, asked]
    cases request.plan with
    | error e => rfl
    | ok plan =>
      dsimp only
      rw [← Decipherer.scriptUrl_requests]
      cases found : (d.scriptUrl plan.video).result with
      | error e =>
        rw [Decipherer.videoCipher_error found]
        exact (List.append_nil _).symm
      | ok url =>
        rw [Decipherer.videoCipher_ok found]
        exact congrArg _ (Decipherer.cipherAt_requests url)

end Request

/-- A request, and the network as it is by then. -/
structure Turn where
  network : Network
  request : Request

namespace Turn

def site (turn : Turn) (d : Decipherer) : Decipherer :=
  { d with network := turn.network }

def serve (turn : Turn) (d : Decipherer) (store : CipherStore) : Visit Answer :=
  turn.request.serve (turn.site d) store

def run (d : Decipherer) (store : CipherStore) (turns : List Turn) : CipherStore :=
  turns.foldl (fun store turn => (turn.serve d store).2) store

def Brings (turn : Turn) (d : Decipherer) (version : ScriptVersion) (cipher : Cipher) : Prop :=
  ∃ source, turn.request.source? (turn.site d) = some (version, source) ∧
    Cipher.ofScript source version d.choice = .ok cipher

/-- The first turn that brings a cipher for the version brings this one. -/
def FirstBrought (d : Decipherer) (turns : List Turn) (version : ScriptVersion)
    (cipher : Cipher) : Prop :=
  ∃ before turn after, turns = before ++ turn :: after ∧ turn.Brings d version cipher ∧
    ∀ earlier ∈ before, ∀ other, ¬earlier.Brings d version other

def versions (d : Decipherer) (turns : List Turn) : List ScriptVersion :=
  (turns.filterMap fun turn => turn.request.resolved? (turn.site d)).map (·.1)

variable {d : Decipherer} {version : ScriptVersion} {cipher : Cipher}

theorem resolved?_eq_some {turn : Turn} :
    turn.request.resolved? (turn.site d) = some (version, cipher) ↔
      turn.Brings d version cipher := by
  unfold Request.resolved? Brings
  cases turn.request.source? (turn.site d) with
  | none => simp
  | some script =>
    obtain ⟨own, source⟩ := script
    show ((Cipher.ofScript source own d.choice).mapError Error.ofResolve).toOption.map (own, ·) =
      some (version, cipher) ↔ _
    cases resolved : Cipher.ofScript source own d.choice with
    | error cause =>
      constructor
      · intro none
        cases none
      · rintro ⟨other, same, brought⟩
        cases same
        rw [resolved] at brought
        cases brought
    | ok found =>
      constructor
      · intro some
        cases some
        exact ⟨source, rfl, resolved⟩
      · rintro ⟨other, same, brought⟩
        cases same
        rw [resolved] at brought
        cases brought
        rfl

theorem run_eq (d : Decipherer) (store : CipherStore) (turns : List Turn) :
    run d store turns =
      (turns.filterMap fun turn => turn.request.resolved? (turn.site d)).foldl
        CipherStore.keep store := by
  induction turns generalizing store with
  | nil => rfl
  | cons turn turns ih =>
    have after : (turn.serve d store).2 =
        (turn.request.resolved? (turn.site d)).elim store store.keep := by
      rw [serve, Request.serve_eq, Request.visit_store]
    show run d (turn.serve d store).2 turns = _
    rw [ih, after, List.filterMap_cons]
    cases turn.request.resolved? (turn.site d) <;> rfl

theorem firstBrought_cons_of_brings {turn : Turn} {turns : List Turn} {held : Cipher}
    (brings : turn.Brings d version held) :
    FirstBrought d (turn :: turns) version cipher ↔ held = cipher := by
  constructor
  · rintro ⟨before, first, after, split, brought, quiet⟩
    cases before with
    | nil =>
      cases split
      have same := (resolved?_eq_some.2 brings).symm.trans (resolved?_eq_some.2 brought)
      simpa using same
    | cons earlier before =>
      cases split
      exact absurd brings (quiet turn (.head _) held)
  · rintro rfl
    exact ⟨[], turn, turns, rfl, brings, fun _ none => nomatch none⟩

theorem firstBrought_cons_of_not {turn : Turn} {turns : List Turn}
    (quiet : ∀ other, ¬turn.Brings d version other) :
    FirstBrought d (turn :: turns) version cipher ↔ FirstBrought d turns version cipher := by
  constructor
  · rintro ⟨before, first, after, split, brought, others⟩
    cases before with
    | nil =>
      cases split
      exact absurd brought (quiet cipher)
    | cons earlier before =>
      cases split
      exact ⟨before, first, after, rfl, brought, fun each member =>
        others each (.tail _ member)⟩
  · rintro ⟨before, first, after, rfl, brought, others⟩
    refine ⟨turn :: before, first, after, rfl, brought, fun each member => ?_⟩
    rcases List.mem_cons.1 member with rfl | later
    · exact quiet
    · exact others each later

theorem firstCipher?_eq_some {turns : List Turn} :
    CipherStore.firstCipher?
        (turns.filterMap fun turn => turn.request.resolved? (turn.site d)) version =
      some cipher ↔ FirstBrought d turns version cipher := by
  induction turns with
  | nil =>
    constructor
    · intro none
      cases none
    · rintro ⟨before, turn, after, split, -⟩
      cases before <;> cases split
  | cons turn turns ih =>
    rw [List.filterMap_cons]
    cases resolved : turn.request.resolved? (turn.site d) with
    | none =>
      rw [firstBrought_cons_of_not fun other brings => by
        simp [resolved?_eq_some.2 brings] at resolved]
      exact ih
    | some entry =>
      obtain ⟨own, held⟩ := entry
      dsimp only
      rw [CipherStore.firstCipher?_cons]
      by_cases same : own = version
      · subst same
        rw [if_pos rfl, firstBrought_cons_of_brings (resolved?_eq_some.1 resolved),
          Option.some_inj]
      · rw [if_neg same, firstBrought_cons_of_not, ih]
        intro other brings
        rw [resolved?_eq_some.2 brings] at resolved
        cases resolved
        exact same rfl

theorem FirstBrought.append {turns : List Turn} (first : FirstBrought d turns version cipher)
    (more : List Turn) : FirstBrought d (turns ++ more) version cipher := by
  obtain ⟨before, turn, after, rfl, brought, quiet⟩ := first
  exact ⟨before, turn, after ++ more, by simp, brought, quiet⟩

theorem FirstBrought.version_eq {turns : List Turn}
    (first : FirstBrought d turns version cipher) : cipher.version = version := by
  obtain ⟨_, _, _, _, ⟨source, _, resolved⟩, _⟩ := first
  exact Cipher.version_of_ofScript resolved

/-- A store with room for all versions holds the first cipher of each. -/
theorem run_held {turns : List Turn} {all : List ScriptVersion} {capacity : Nat}
    (among : versions d turns ⊆ all) (room : all.dedup.length ≤ capacity) :
    (run d (.empty capacity) turns).Roomy all ∧ ∀ version cipher,
      (run d (.empty capacity) turns).get? version = some cipher ↔
        FirstBrought d turns version cipher := by
  obtain ⟨roomy, held⟩ := (CipherStore.Roomy.empty room).foldl_keep among
  rw [run_eq]
  refine ⟨roomy, fun version cipher => ?_⟩
  rw [held, CipherStore.get?_empty, Option.none_or]
  exact firstCipher?_eq_some

structure Frugal (turn : Turn) (d : Decipherer) (store : CipherStore) : Prop where
  /-- No cipher is lost or replaced. -/
  retains : ∀ version cipher, store.get? version = some cipher →
    (turn.serve d store).2.get? version = some cipher
  /-- A request that fails before it has its cipher changes nothing. -/
  unresolved : ∀ e, (turn.request.visit (turn.site d) store).1.result = .error e →
    (turn.serve d store).1.result = .error e ∧ (turn.serve d store).2 = store
  /-- A request that has its cipher leaves it in the store, whatever its use brings. -/
  resolved : ∀ cipher, (turn.request.visit (turn.site d) store).1.result = .ok cipher →
    (turn.serve d store).1.result = turn.request.use cipher ∧
      (turn.serve d store).2.get? cipher.version = some cipher
  /-- Nothing is asked for on behalf of a query that cannot be read. -/
  unread : ∀ query video e, turn.request = .video (.streamUrl query video) →
    SignatureCipher.parse query = .error e → (turn.serve d store).1.requests = []
  requests : (turn.serve d store).1.requests = turn.request.asked (turn.site d) store

theorem serve_frugal {turn : Turn} {store : CipherStore} {all : List ScriptVersion}
    (roomy : store.Roomy all)
    (own : ∀ version cipher, store.get? version = some cipher → cipher.version = version)
    (among : ∀ version cipher, turn.Brings d version cipher → version ∈ all) :
    turn.Frugal d store := by
  have served : turn.serve d store =
      ((turn.request.visit (turn.site d) store).1.andThen fun cipher =>
        .done (turn.request.use cipher), (turn.request.visit (turn.site d) store).2) :=
    turn.request.serve_eq _ _
  have requests := turn.request.serve_requests (turn.site d) store
  have held : ∀ version, (turn.serve d store).2.get? version =
      (store.get? version).or
        (CipherStore.firstCipher? (turn.request.resolved? (turn.site d)).toList version) := by
    intro version
    rw [served, Request.visit_store]
    cases resolved : turn.request.resolved? (turn.site d) with
    | none => exact Option.or_none.symm
    | some entry =>
      have asked := among entry.1 entry.2 (resolved?_eq_some.1 resolved)
      rw [Option.toList_some, CipherStore.firstCipher?_cons]
      exact roomy.get?_keep asked version
  have retains : ∀ version cipher, store.get? version = some cipher →
      (turn.serve d store).2.get? version = some cipher := by
    intro version cipher before
    rw [held, before, Option.some_or]
  refine ⟨retains, ?_, ?_, ?_, requests⟩
  · intro e failed
    rw [served, Fetch.result_andThen, failed]
    exact ⟨rfl, Request.visit_error failed⟩
  · intro cipher found
    refine ⟨by rw [served, Fetch.result_andThen, found]; rfl, ?_⟩
    obtain ⟨version, stored | ⟨missing, brought⟩⟩ := Request.visit_ok found
    · rw [own version cipher stored]
      exact retains version cipher stored
    · obtain ⟨source, _, resolved⟩ := resolved?_eq_some.1 brought
      rw [Cipher.version_of_ofScript resolved, held, missing, brought, Option.none_or,
        Option.toList_some, CipherStore.firstCipher?_cons, if_pos rfl]
  · intro query video e request unread
    show (turn.request.serve (turn.site d) store).1.requests = []
    rw [requests, request]
    simp only [Request.asked, VideoRequest.plan, unread]

theorem versions_append (d : Decipherer) (before after : List Turn) :
    versions d (before ++ after) = versions d before ++ versions d after := by
  simp only [versions, List.filterMap_append, List.map_append]

theorem mem_versions {turn : Turn} {turns : List Turn} (inside : turn ∈ turns)
    (brings : turn.Brings d version cipher) : version ∈ versions d turns :=
  List.mem_map.2 ⟨(version, cipher),
    List.mem_filterMap.2 ⟨turn, inside, resolved?_eq_some.2 brings⟩, rfl⟩

/-- As long as there is room for every version, a store that starts empty holds for each version
the first cipher that was resolved for it, keeps it, and saves every request that it can. -/
theorem run_retains (d : Decipherer) (capacity : Nat) (turns : List Turn)
    (room : (versions d turns).dedup.length ≤ capacity) :
    (∀ version cipher, (run d (.empty capacity) turns).get? version = some cipher ↔
      FirstBrought d turns version cipher) ∧
    (∀ version cipher, (run d (.empty capacity) turns).get? version = some cipher →
      cipher.version = version) ∧
    (∀ before after, turns = before ++ after → ∀ version cipher,
      (run d (.empty capacity) before).get? version = some cipher →
        (run d (.empty capacity) turns).get? version = some cipher) ∧
    ∀ before turn after, turns = before ++ turn :: after →
      turn.Frugal d (run d (.empty capacity) before) := by
  have whole := run_held (List.Subset.refl _) room
  have part : ∀ before after, turns = before ++ after → versions d before ⊆ versions d turns := by
    rintro before after rfl
    rw [versions_append]
    exact List.subset_append_left _ _
  refine ⟨whole.2, ?_, ?_, ?_⟩
  · intro version cipher held
    exact ((whole.2 version cipher).1 held).version_eq
  · intro before after split version cipher held
    have first := ((run_held (part before after split) room).2 version cipher).1 held
    rw [whole.2, split]
    exact first.append after
  · intro before turn after split
    obtain ⟨roomy, held⟩ := run_held (part before (turn :: after) split) room
    refine serve_frugal roomy (fun version cipher stored => ?_) fun version cipher brings => ?_
    · exact ((held version cipher).1 stored).version_eq
    · exact mem_versions (by simp [split]) brings

/-- A script without helpers fails, another one of its version resolves and stays, and neither a
site that is down nor the first script changes that. -/
theorem run_retains_repaired :
    let script := "var X=\x7bA:function(a,b)\x7bvar c=a[0];a[0]=a[b];a[b]=c\x7d," ++
      "R:function(a)\x7ba.reverse()\x7d,D:function(a,b)\x7ba.splice(b,1)\x7d\x7d;" ++
      "function K(a)\x7bX.R(a)\x7d"
    let d : Decipherer := ⟨.unreachable, "https://www.youtube.com", .named "K"⟩
    let broken : Turn := ⟨.unreachable, .script ⟨"v42"⟩ "function K(a)\x7b\x7d"⟩
    let working : Turn := ⟨.unreachable, .script ⟨"v42"⟩ script⟩
    let down : Turn := ⟨.unreachable, .video (.decipher "abc" "dQw4w9WgXcQ")⟩
    let turns := [broken, working, down, broken]
    (versions d turns).dedup.length ≤ 1 ∧
      ∃ cipher, cipher.recipe = ⟨[.reverse]⟩ ∧
        (run d (.empty 1) turns).get? ⟨"v42"⟩ = some cipher := by
  intro script d broken working down turns
  have fails : broken.request.resolved? (broken.site d) = none := by cbv
  have offline : down.request.resolved? (down.site d) = none := by
    have refused : ∃ e, (d.scriptUrl "dQw4w9WgXcQ").result = .error e :=
      Decipherer.scriptUrl_unreachable rfl _
    obtain ⟨e, refused⟩ := refused
    simp only [Request.resolved?, Request.source?, VideoRequest.plan, down, site]
    rw [refused]
    rfl
  obtain ⟨cipher, recipe, resolved⟩ : ∃ cipher, cipher.recipe = ⟨[.reverse]⟩ ∧
      Cipher.ofScript script ⟨"v42"⟩ (.named "K") = .ok cipher := by
    refine ⟨⟨⟨"v42"⟩, ⟨"A", "R", "D", by decide, by decide, by decide, by decide, by decide,
      by decide⟩, ⟨[.reverse]⟩⟩, rfl, ?_⟩
    unfold script
    cbv
  have brings : working.Brings d ⟨"v42"⟩ cipher := ⟨script, rfl, resolved⟩
  have room : (versions d turns).dedup.length ≤ 1 := by
    simp [versions, turns, fails, offline, resolved?_eq_some.2 brings]
  refine ⟨room, cipher, recipe, ((run_retains d 1 turns room).1 _ _).2 ?_⟩
  refine ⟨[broken], working, [down, broken], rfl, brings, fun earlier inside other brings => ?_⟩
  rw [List.mem_singleton.1 inside, ← resolved?_eq_some, fails] at brings
  cases brings

end Turn

end PlayerCipher
