import DbxSpec.Redis.ClusterFinds

/-!
# Patterns without wildcards

`scan_keys_batch_inner` asks for the key that is spelled as the pattern where the pattern has no
`*`, `?` and `[`. A backslash is none of these, but it escapes: the pattern `a\b` matches the key
`ab` only. The node that owns the key `a\b` then says that it has no such key, and is not scanned.
-/

namespace DbxSpec.Redis

open DbxSpec.Base List KeyScanSession Function

variable {Node : Type} [LinearOrder Node]

/-! ### Cursors and what they are for -/

/-- The calls that take a cursor. -/
inductive Request
  | keys (count maxIterations : Nat)
  | values (query : Text) (includeKeyMatches : Bool)

/-- What a session of the request filters by. -/
def Request.filter : Request → Option (Text × Bool)
  | .keys _ _ => none
  | .values query includeKeyMatches => some (query, includeKeyMatches)

/-- The call of a request. -/
def Request.call (env : CallEnv Node) (store : ScanSessions Node) (db cursor : Nat)
    (pattern : Bytes) : Request → ScanSessions Node × Except Text ScanResult
  | .keys count maxIterations =>
    scanClusterKeysBatchInDb env store db cursor pattern count maxIterations
  | .values query includeKeyMatches =>
    scanClusterValuesPage env store db cursor pattern query includeKeyMatches

/-- The database, pattern and filter that cursors were created with, after a call. A call that has
a cursor creates none. -/
def created (labels : Nat → Option (Nat × Bytes × Option (Text × Bool))) (cursor : Nat)
    (label : Nat × Bytes × Option (Text × Bool)) :
    Except Text ScanResult → Nat → Option (Nat × Bytes × Option (Text × Bool))
  | .error _ => labels
  | .ok result => if cursor = 0 then update labels result.cursor (some label) else labels

/-- The sessions after any calls, and what their cursors were created with. -/
inductive Issued :
    ScanSessions Node → (Nat → Option (Nat × Bytes × Option (Text × Bool))) → Prop
  | start : Issued (fun _ => none) (fun _ => none)
  | call {store : ScanSessions Node} {labels : Nat → Option (Nat × Bytes × Option (Text × Bool))}
      (h : Issued store labels) (env : CallEnv Node) (db cursor : Nat) (pattern : Bytes)
      (request : Request) :
      Issued (request.call env store db cursor pattern).1
        (created labels cursor (db, pattern, request.filter)
          (request.call env store db cursor pattern).2)

private theorem Request.call_called (env : CallEnv Node) (store : ScanSessions Node)
    (db cursor : Nat) (pattern : Bytes) (request : Request) :
    ∃ run : KeyScanSession Node → KeyScanSession Node × List Bytes × Bool → Prop,
      (∀ session batch, run session batch → batch.1.label = session.label) ∧
      Called run env store (db, pattern, request.filter) cursor
        (request.call env store db cursor pattern) := by
  cases request with
  | keys count maxIterations =>
    refine ⟨_, ?_, scanClusterKeysBatchInDb_called env store db cursor pattern count maxIterations⟩
    rintro session batch ⟨includeTotalKeys, hrun⟩
    exact scanClusterKeysBatchOnSession_label hrun
  | values query includeKeyMatches =>
    refine ⟨_, ?_, scanClusterValuesPage_called env store db cursor pattern query includeKeyMatches⟩
    rintro session batch ⟨fuel, connected, hrun⟩
    exact valuesLoop_label _ _ _ _ hrun

private theorem Issued.label_eq {store : ScanSessions Node}
    {labels : Nat → Option (Nat × Bytes × Option (Text × Bool))} (h : Issued store labels)
    {cursor : Nat} {session : KeyScanSession Node} (hcursor : cursor ≠ 0)
    (hsession : store cursor = some session) : labels cursor = some session.label := by
  induction h generalizing cursor session with
  | start => cases hsession
  | @call store labels _ env db given pattern request ih =>
    obtain ⟨run, hrunLabel, hcalled⟩ := request.call_called env store db given pattern
    generalize request.call env store db given pattern = ended at hsession hcalled ⊢
    cases hcalled with
    | rejected | failed => exact ih hcursor hsession
    | empty hzero =>
      rw [created, if_pos hzero, update_of_ne hcursor]
      exact ih hcursor hsession
    | @first nodes shown counted batch hzero _ hrun =>
      obtain ⟨after, result, hend⟩ := exists_keepSession env store given shown batch
      rw [hend] at hsession ⊢
      dsimp only at hsession
      rw [created, if_pos hzero]
      obtain ⟨-, ⟨-, hresult, rfl⟩ | ⟨-, rfl⟩⟩ := keepSession_ok hend
      · rw [hresult, update_of_ne hcursor]
        rw [update_of_ne (hzero ▸ hcursor)] at hsession
        exact ih hcursor hsession
      · by_cases hsame : cursor = result.cursor
        · rw [hsame, update_self] at hsession ⊢
          obtain rfl := Option.some.inj hsession
          rw [hrunLabel _ _ hrun]
          rfl
        · rw [update_of_ne hsame] at hsession ⊢
          exact ih hcursor hsession
    | @later found shown batch hgiven hfound hlabel hrun =>
      obtain ⟨after, result, hend⟩ := exists_keepSession env store given shown batch
      rw [hend] at hsession ⊢
      dsimp only at hsession
      rw [created, if_neg hgiven]
      obtain ⟨-, ⟨-, -, rfl⟩ | ⟨hresult, rfl⟩⟩ := keepSession_ok hend
      · by_cases hsame : cursor = given
        · rw [hsame, update_self] at hsession
          cases hsession
        · rw [update_of_ne hsame] at hsession
          exact ih hcursor hsession
      · rw [hresult, if_neg hgiven] at hsession
        by_cases hsame : cursor = given
        · rw [hsame, update_self] at hsession
          obtain rfl := Option.some.inj hsession
          rw [hrunLabel _ _ hrun, hsame]
          exact ih hgiven hfound
        · rw [update_of_ne hsame] at hsession
          exact ih hcursor hsession

/-! ### Every key is found -/

/-- A scan for a pattern over a cluster finds what matches, and cursors are for the scan that they
were created with. -/
structure FindsKeys (cluster : Cluster Node) (pattern : Bytes) : Prop where
  found : ∀ (protocol : Protocol cluster pattern) (db : Nat) (keys : List Bytes),
    Finishes protocol db keys → ∀ node ∈ cluster.masterNodes, ∀ key ∈ cluster.keys node,
      globMatch pattern key → key ∈ keys
  once : ∀ (protocol : Protocol cluster pattern) (db : Nat) (keys : List Bytes),
    (∀ node ∈ cluster.masterNodes, ∀ reported, Iteration (protocol.page node) reported →
      reported.Nodup) →
    Finishes protocol db keys → ∀ node ∈ cluster.masterNodes, ∀ key ∈ cluster.keys node,
      globMatch pattern key → keys.count key = 1
  accepted : ∀ (store : ScanSessions Node)
    (labels : Nat → Option (Nat × Bytes × Option (Text × Bool))), Issued store labels →
    ∀ (env : CallEnv Node) (db cursor : Nat) (request : Request), cursor ≠ 0 →
      (request.call env store db cursor pattern).2 ≠ .error invalidClusterScanCursorError →
      labels cursor = some (db, pattern, request.filter)

/-- Where the key that is spelled as the pattern is asked for, its owner has no other key that
matches. -/
def ShortcutSafe (cluster : Cluster Node) (pattern : Bytes) : Prop :=
  isExactMatch pattern → pattern ≠ [] → ∀ node ∈ cluster.masterNodes,
    cluster.owner pattern = node → ∀ key ∈ cluster.keys node, globMatch pattern key →
      key = pattern

section Finds

variable {cluster : Cluster Node} {pattern : Bytes} {protocol : Protocol cluster pattern} {db : Nat}
  {keys : List Bytes}

private theorem Finishes.mem_keysOf (hsafe : ShortcutSafe cluster pattern)
    (h : Finishes protocol db keys) {node : Node} (hnode : node ∈ cluster.masterNodes) {key : Bytes}
    (hkey : key ∈ cluster.keys node) (hmatch : globMatch pattern key) :
    key ∈ keysOf cluster node keys := by
  rcases h.whole hnode with hwhole | ⟨hexact, hne, howner, hkeys⟩
  · exact protocol.covers node hnode _ hwhole key hkey hmatch
  · obtain rfl := hsafe hexact hne node hnode howner key hkey hmatch
    rw [hkeys, if_pos hkey]
    exact mem_singleton_self key

private theorem nodup_keysOf (h : Finishes protocol db keys) {node : Node}
    (hnode : node ∈ cluster.masterNodes)
    (honce : ∀ reported, Iteration (protocol.page node) reported → reported.Nodup) :
    (keysOf cluster node keys).Nodup := by
  rcases h.whole hnode with hwhole | ⟨-, -, -, hkeys⟩
  · exact honce _ hwhole
  · rw [hkeys]
    split
    · exact nodup_singleton pattern
    · exact nodup_nil

private theorem accepted_of_issued {store : ScanSessions Node}
    {labels : Nat → Option (Nat × Bytes × Option (Text × Bool))} (h : Issued store labels)
    (env : CallEnv Node) {db cursor : Nat} {request : Request} (hcursor : cursor ≠ 0)
    (hresult : (request.call env store db cursor pattern).2 ≠
      .error invalidClusterScanCursorError) :
    labels cursor = some (db, pattern, request.filter) := by
  obtain ⟨run, -, hcalled⟩ := request.call_called env store db cursor pattern
  generalize request.call env store db cursor pattern = ended at hresult hcalled
  cases hcalled with
  | rejected => exact absurd rfl hresult
  | failed hlabel =>
    obtain ⟨session, hsession, hlabel⟩ := hlabel hcursor
    exact hlabel ▸ h.label_eq hcursor hsession
  | empty hzero | first hzero => exact absurd hzero hcursor
  | later _ hsession hlabel => exact hlabel ▸ h.label_eq hcursor hsession

private theorem findsKeys_of_shortcutSafe (hsafe : ShortcutSafe cluster pattern) :
    FindsKeys cluster pattern where
  found protocol db keys h node hnode key hkey hmatch :=
    mem_of_mem_filter (h.mem_keysOf hsafe hnode hkey hmatch)
  once protocol db keys honce h node hnode key hkey hmatch := by
    have hcount : (keysOf cluster node keys).count key = keys.count key :=
      count_filter (decide_eq_true (cluster.owned node hnode key hkey))
    rw [← hcount]
    exact count_eq_one_of_mem (nodup_keysOf h hnode (honce node hnode))
      (h.mem_keysOf hsafe hnode hkey hmatch)
  accepted _ _ h env _ _ _ hcursor hresult := accepted_of_issued h env hcursor hresult

end Finds

/-! ### A run where the owner is asked -/

section Owner

variable (cluster : Cluster Node) (pattern : Bytes)

/-- The keys of a node that match. -/
def matching (node : Node) : List Bytes := (cluster.keys node).filter (globMatch pattern ·)

/-- Every node but the owner of the key that is spelled as the pattern answers `SCAN` at once. -/
def ownerSilent : Protocol cluster pattern where
  page node cursor next keys :=
    node ≠ cluster.owner pattern ∧ cursor = 0 ∧ next = 0 ∧ keys = matching cluster pattern node
  sound node _ cursor next keys h key hkey := by
    rw [h.2.2.2] at hkey
    exact mem_of_mem_filter hkey
  covers node _ keys h key hkey hmatch := by
    obtain ⟨cursor, first, last, hpartway, ⟨-, rfl, -, rfl⟩, rfl⟩ := h
    rw [hpartway.eq_nil, nil_append]
    exact mem_filter.mpr ⟨hkey, hmatch⟩

/-- A call in which everything works. -/
def ownerAnswers : CallEnv Node where
  discover := .ok cluster.masterNodes
  greet _ := .ok ()
  dbSize node := .ok (cluster.keys node).length
  connect _ _ := .ok ()
  existsKey _ node :=
    if node = cluster.owner pattern then .ok ((cluster.keys node).contains pattern)
    else .error "MOVED"
  scan _ node cursor :=
    if node ≠ cluster.owner pattern ∧ cursor = 0 then .ok (0, matching cluster pattern node)
    else .error "unavailable"
  scanValues _ _ _ := .error "unavailable"
  allocated := 1

private theorem ownerAnswers_fits :
    (ownerAnswers cluster pattern).Fits (ownerSilent cluster pattern) (fun _ => none) where
  discover nodes h node := by
    obtain rfl := Except.ok.inj h
    exact Iff.rfl
  existsKey _ node found h := by
    rw [ownerAnswers] at h
    dsimp only at h
    split at h
    · next howner => exact ⟨howner.symm, (Except.ok.inj h).symm.trans (contains_eq_mem _ _)⟩
    · cases h
  scan _ node cursor next keys h := by
    rw [ownerAnswers] at h
    dsimp only at h
    split at h
    · next hnode =>
      cases h
      exact ⟨hnode.1, hnode.2, rfl, rfl⟩
    · cases h
  allocated := ⟨Nat.one_ne_zero, rfl⟩

section

variable (hexact : isExactMatch pattern)

include hexact

private theorem askKeys_ownerAnswers (hne : pattern ≠ [])
    (count time : Nat) (node : Node) :
    ∃ page, askKeys (ownerAnswers cluster pattern) pattern count time node 0 = .ok (0, page) ∧
      page.length ≤ (cluster.keys node).length + 1 := by
  rw [askKeys, scanKeysBatchInner, if_pos ⟨rfl, hexact, hne⟩]
  by_cases howner : node = cluster.owner pattern
  · have hexists : (ownerAnswers cluster pattern).existsKey time node =
        .ok ((cluster.keys node).contains pattern) := if_pos howner
    rw [hexists]
    refine ⟨_, rfl, ?_⟩
    split <;> simp
  · have hexists : (ownerAnswers cluster pattern).existsKey time node = .error "MOVED" :=
      if_neg howner
    have hscan : (ownerAnswers cluster pattern).scan time node 0 =
        .ok (0, matching cluster pattern node) := if_pos ⟨howner, rfl⟩
    rw [hexists]
    refine ⟨matching cluster pattern node, ?_, ?_⟩
    · rw [Nat.max_self, scanKeysLoop, hscan]
      rfl
    · exact (length_filter_le _ _).trans (Nat.le_succ _)

private theorem batchLoop_ownerAnswers (hne : pattern ≠ [])
    {bound : Nat} (hbound : ∀ node ∈ cluster.masterNodes, (cluster.keys node).length < bound)
    {count : Nat} (remaining : Nat) (session : KeyScanSession Node) (connected : Nat → Bool)
    (keys : List Bytes) (hnodes : ∀ node ∈ session.masterNodes, node ∈ cluster.masterNodes)
    (hlength : session.nodeComplete.length = session.masterNodes.length)
    (hcursors : ∀ index, session.nodeCursors.getD index 0 = 0)
    (hleft : session.nodeComplete.count false = remaining)
    (hcount : keys.length + remaining * bound < count) :
    ∃ ended found, batchLoop (ownerAnswers cluster pattern) pattern count (remaining + 1) session
      connected keys = .ok (ended, found, true) := by
  induction remaining generalizing session connected keys with
  | zero =>
    rw [batchLoop]
    split
    · exact ⟨_, _, rfl⟩
    · next index hindex =>
      have hopen := mem_of_getElem? (nextUnfinishedNodeIndex_some hindex)
      exact absurd (count_pos_iff.mpr hopen) (hleft ▸ Nat.lt_irrefl 0)
  | succ remaining ih =>
    rw [batchLoop]
    split
    · exact ⟨_, _, rfl⟩
    · next index hindex =>
      have hopen := nextUnfinishedNodeIndex_some hindex
      obtain ⟨hlt, hflag⟩ := List.getElem?_eq_some_iff.mp hopen
      have hnode : index < session.masterNodes.length := hlength ▸ hlt
      obtain ⟨page, hpage, hshort⟩ := askKeys_ownerAnswers cluster pattern hexact hne count
        (remaining + 1) session.masterNodes[index]
      have hsmall := hbound _ (hnodes _ (getElem_mem hnode))
      have hturn : turn (ownerAnswers cluster pattern)
          (askKeys (ownerAnswers cluster pattern) pattern count) (remaining + 1) session connected
          index = .ok (0, page) := by
        rw [turn, getElem?_eq_getElem hnode]
        dsimp only
        rw [hcursors, hpage]
        split <;> rfl
      rw [hturn]
      dsimp only [Except.bind]
      have hroom : (keys ++ page).length + remaining * bound < count := by
        rw [length_append]
        rw [Nat.add_mul, Nat.one_mul] at hcount
        omega
      split
      · next hstop =>
        rcases (Bool.or_eq_true _ _).mp hstop with hcomplete | hfull
        · rw [hcomplete]
          exact ⟨_, _, rfl⟩
        · have := of_decide_eq_true hfull
          omega
      · refine ih _ _ _ hnodes ?_ ?_ ?_ hroom
        · rw [arrive, length_set, hlength]
        · intro other
          rw [arrive, getD_eq_getElem?_getD, getElem?_set]
          split
          · split <;> rfl
          · rw [← getD_eq_getElem?_getD, hcursors]
        · rw [arrive, count_set hlt, hleft, hflag]
          simp

private theorem finishes_ownerSilent (hne : pattern ≠ []) :
    ∃ keys, Finishes (ownerSilent cluster pattern) 0 keys := by
  have hcall : ∃ count maxIterations, ∃ after, ∃ result : ScanResult,
      scanClusterKeysBatchInDb (ownerAnswers cluster pattern) (fun _ => none) 0 0 pattern count
        maxIterations = (after, .ok result) ∧ result.cursor = 0 := by
    let nodes := canonicalClusterMasterNodes cluster.masterNodes
    let bound := (cluster.masterNodes.map fun node => (cluster.keys node).length).sum + 1
    have hbound : ∀ node ∈ cluster.masterNodes, (cluster.keys node).length < bound :=
      fun node hnode => Nat.lt_succ_of_le (le_sum_of_mem (mem_map_of_mem hnode))
    have hcount : ([] : List Bytes).length + nodes.length * bound < nodes.length * bound + 1 := by
      simp
    obtain ⟨ended, found, hloop⟩ := batchLoop_ownerAnswers cluster pattern hexact hne hbound
      nodes.length (.new 0 none nodes pattern)
      (fun index => greeted (ownerAnswers cluster pattern) nodes index) []
      (fun node hnode => (mem_insertionSort _).mp (mem_dedup.mp hnode))
      length_replicate (fun index => getD_replicate_zero nodes.length index)
      count_replicate_self hcount
    have hdiscover : (ownerAnswers cluster pattern).discover = .ok cluster.masterNodes := rfl
    refine ⟨nodes.length * bound + 1, nodes.length + 1, ?_⟩
    rw [scanClusterKeysBatchInDb, if_pos rfl, hdiscover]
    dsimp only
    by_cases hnone : nodes = []
    · rw [if_pos hnone]
      exact ⟨_, _, rfl, rfl⟩
    · have hstarts : ¬((new 0 none nodes pattern).masterNodes.isEmpty ||
          (new 0 none nodes pattern).isComplete) := by
        rw [isComplete, new, all_replicate]
        simp [hnone]
      have hmax : max (nodes.length + 1) 1 = nodes.length + 1 :=
        Nat.max_eq_left (Nat.le_add_left _ _)
      have hbatch : scanClusterKeysBatchOnSession (ownerAnswers cluster pattern)
          (.new 0 none nodes pattern) pattern (nodes.length * bound + 1) (nodes.length + 1) true =
            .ok (ended, found, true) := by
        rw [scanClusterKeysBatchOnSession, if_neg hstarts, hmax]
        exact hloop
      rw [if_neg hnone, hbatch]
      exact ⟨_, _, rfl, rfl⟩
  obtain ⟨count, maxIterations, after, result, hcall, hzero⟩ := hcall
  exact ⟨_, _, 0, [], count, maxIterations, _, after, result, .start _,
    ownerAnswers_fits cluster pattern, hcall, hzero, rfl⟩

end

private theorem shortcutSafe_of_findsKeys (h : FindsKeys cluster pattern) :
    ShortcutSafe cluster pattern := by
  intro hexact hne node hnode howner key hkey hmatch
  obtain ⟨keys, hfinishes⟩ := finishes_ownerSilent cluster pattern hexact hne
  have hfound := h.found _ _ _ hfinishes node hnode key hkey hmatch
  have hkept : key ∈ keysOf cluster node keys :=
    mem_filter.mpr ⟨hfound, decide_eq_true (cluster.owned node hnode key hkey)⟩
  rcases hfinishes.whole hnode with ⟨_, _, _, -, hpage, -⟩ | ⟨-, -, -, hkeys⟩
  · exact absurd howner.symm hpage.1
  · rw [hkeys] at hkept
    split at hkept
    · exact mem_singleton.mp hkept
    · cases hkept

end Owner

/-- A scan over a cluster finds every key that matches, and each once where the nodes report each
once, unless the pattern has no wildcard and the owner of the key that is spelled as the pattern has
another key that matches. -/
theorem findsKeys_iff (cluster : Cluster Node) (pattern : Bytes) :
    FindsKeys cluster pattern ↔ ShortcutSafe cluster pattern :=
  ⟨shortcutSafe_of_findsKeys cluster pattern, findsKeys_of_shortcutSafe⟩

/-- One master with the key `ab`. -/
def oneMaster : Cluster Nat where
  masterNodes := [7000]
  keys _ := ["ab".toList.map Char.toUInt8]
  owner _ := 7000
  owned _ hnode _ _ := (mem_singleton.mp hnode).symm

/-- The pattern `a\b`. -/
def escaped : Bytes := "a\\b".toList.map Char.toUInt8

/-- The pattern `a\b` matches the key `ab`, but the scan ends with no key. -/
theorem escaped_pattern_finds_nothing :
    ¬FindsKeys oneMaster escaped ∧ globMatch escaped ("ab".toList.map Char.toUInt8) ∧
      ((scanClusterKeysBatchInDb (ownerAnswers oneMaster escaped) (fun _ => none) 0 0 escaped 100
        10).2.toOption.map fun result => (result.cursor, result.keys)) = some (0, []) := by
  refine ⟨fun h => ?_, by decide +kernel, by decide +kernel⟩
  have hsame := shortcutSafe_of_findsKeys oneMaster escaped h (by decide +kernel)
    (by decide +kernel) 7000 (mem_singleton_self _) rfl _ (mem_singleton_self _)
    (by decide +kernel)
  exact absurd hsame (by decide +kernel)

end DbxSpec.Redis
