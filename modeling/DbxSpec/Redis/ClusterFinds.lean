import DbxSpec.Redis.ClusterScan

/-!
# A scan over a cluster finds every key

The pages that a client got for a node are a part of an iteration of that node, or the answer to a
question for one key. A run that ends has a whole iteration of every node, unless a node was asked
for the key that is spelled as the pattern.
-/

namespace DbxSpec.Redis

open DbxSpec.Base List KeyScanSession

variable {Node : Type} [LinearOrder Node]

/-! ### Clusters -/

/-- A cluster that does not change: every key is on the master that owns it. -/
structure Cluster (Node : Type) where
  masterNodes : List Node
  keys : Node → List Bytes
  owner : Bytes → Node
  owned : ∀ node ∈ masterNodes, ∀ key ∈ keys node, owner key = node

/-- The replies of an iteration so far, from cursor 0 to a cursor. -/
inductive Partway (page : Nat → Nat → List Bytes → Prop) : Nat → List Bytes → Prop
  | start : Partway page 0 []
  | next {cursor next : Nat} {keys more : List Bytes} (h : Partway page cursor keys)
      (hpage : page cursor next more) (hnext : next ≠ 0) : Partway page next (keys ++ more)

/-- The replies of a full iteration. -/
def Iteration (page : Nat → Nat → List Bytes → Prop) (keys : List Bytes) : Prop :=
  ∃ cursor first last, Partway page cursor first ∧ page cursor 0 last ∧ keys = first ++ last

/-- How the nodes answer `SCAN` for a pattern: with keys of their own, and in a full iteration with
every key that matches. -/
structure Protocol (cluster : Cluster Node) (pattern : Bytes) where
  page : Node → Nat → Nat → List Bytes → Prop
  sound : ∀ node ∈ cluster.masterNodes, ∀ cursor next keys, page node cursor next keys →
    ∀ key ∈ keys, key ∈ cluster.keys node
  covers : ∀ node ∈ cluster.masterNodes, ∀ keys, Iteration (page node) keys →
    ∀ key ∈ cluster.keys node, globMatch pattern key → key ∈ keys

section Runs

variable {cluster : Cluster Node} {pattern : Bytes}

/-- What happens in a call fits to the cluster: a node that does not own a key answers `EXISTS` with
an error. Anything may fail. -/
structure CallEnv.Fits (protocol : Protocol cluster pattern) (env : CallEnv Node)
    (store : ScanSessions Node) : Prop where
  discover : ∀ nodes, env.discover = .ok nodes → ∀ node, node ∈ nodes ↔ node ∈ cluster.masterNodes
  existsKey : ∀ time node found, env.existsKey time node = .ok found →
    cluster.owner pattern = node ∧ found = decide (pattern ∈ cluster.keys node)
  scan : ∀ time node cursor next keys, env.scan time node cursor = .ok (next, keys) →
    protocol.page node cursor next keys
  allocated : env.allocated ≠ 0 ∧ store env.allocated = none

/-- A client that started at cursor 0 has a cursor and some keys. It repeats calls that fail; other
clients use other cursors. -/
inductive Reaches (protocol : Protocol cluster pattern) (db : Nat) :
    ScanSessions Node → Nat → List Bytes → Prop
  | start (store : ScanSessions Node) : Reaches protocol db store 0 []
  | other {store after : ScanSessions Node} {cursor : Nat} {keys : List Bytes}
      (h : Reaches protocol db store cursor keys) (hsame : after cursor = store cursor) :
      Reaches protocol db after cursor keys
  | failed {store after : ScanSessions Node} {cursor count maxIterations : Nat} {keys : List Bytes}
      {env : CallEnv Node} {e : Text} (h : Reaches protocol db store cursor keys)
      (hfits : env.Fits protocol store)
      (hcall : scanClusterKeysBatchInDb env store db cursor pattern count maxIterations =
        (after, .error e)) : Reaches protocol db after cursor keys
  | page {store after : ScanSessions Node} {cursor count maxIterations : Nat} {keys : List Bytes}
      {env : CallEnv Node} {result : ScanResult} (h : Reaches protocol db store cursor keys)
      (hfits : env.Fits protocol store)
      (hcall : scanClusterKeysBatchInDb env store db cursor pattern count maxIterations =
        (after, .ok result)) (hmore : result.cursor ≠ 0) :
      Reaches protocol db after result.cursor (keys ++ result.keys)

/-- The keys of a run until cursor 0 comes back. -/
def Finishes (protocol : Protocol cluster pattern) (db : Nat) (keys : List Bytes) : Prop :=
  ∃ store cursor first count maxIterations, ∃ env : CallEnv Node, ∃ after, ∃ result : ScanResult,
    Reaches protocol db store cursor first ∧ env.Fits protocol store ∧
    scanClusterKeysBatchInDb env store db cursor pattern count maxIterations =
      (after, .ok result) ∧ result.cursor = 0 ∧ keys = first ++ result.keys

/-! ### Pages that arrived -/

/-- A node that was asked for the key that is spelled as the pattern. -/
def Shortcut (cluster : Cluster Node) (pattern : Bytes) (node : Node) (keys : List Bytes) : Prop :=
  isExactMatch pattern ∧ pattern ≠ [] ∧ cluster.owner pattern = node ∧
    keys = if pattern ∈ cluster.keys node then [pattern] else []

/-- What was got from a node. -/
def Progress (protocol : Protocol cluster pattern) (node : Node) (cursor : Nat) (complete : Bool)
    (keys : List Bytes) : Prop :=
  if complete then Iteration (protocol.page node) keys ∨ Shortcut cluster pattern node keys
  else Partway (protocol.page node) cursor keys

/-- The keys of a node. -/
def keysOf (cluster : Cluster Node) (node : Node) (keys : List Bytes) : List Bytes :=
  keys.filter (cluster.owner · = node)

/-- A session says where the scan of each node is, after some keys. -/
structure Tracks (protocol : Protocol cluster pattern) (session : KeyScanSession Node)
    (keys : List Bytes) : Prop where
  nodes : ∀ node, node ∈ session.masterNodes ↔ node ∈ cluster.masterNodes
  nodup : session.masterNodes.Nodup
  cursors : session.nodeCursors.length = session.masterNodes.length
  completes : session.nodeComplete.length = session.masterNodes.length
  progress : ∀ (index : Nat) (node : Node) (complete : Bool),
    session.masterNodes[index]? = some node → session.nodeComplete[index]? = some complete →
    Progress protocol node (session.nodeCursors.getD index 0) complete (keysOf cluster node keys)

variable {protocol : Protocol cluster pattern} {session : KeyScanSession Node} {keys : List Bytes}
  {count cursor : Nat} {index : Nat}

/-- No key has come before the first reply. -/
theorem Partway.eq_nil {page : Nat → Nat → List Bytes → Prop} (h : Partway page 0 keys) :
    keys = [] := by
  cases h with
  | start => rfl
  | next _ _ hnext => exact absurd rfl hnext

omit [LinearOrder Node] in
private theorem askKeys_ok {env : CallEnv Node} {store : ScanSessions Node}
    (hfits : env.Fits protocol store) {time next : Nat} {node : Node}
    (h : askKeys env pattern count time node cursor = .ok (next, keys)) :
    protocol.page node cursor next keys ∨
      cursor = 0 ∧ next = 0 ∧ Shortcut cluster pattern node keys := by
  rw [askKeys, scanKeysBatchInner] at h
  split at h
  · next found hfound =>
    split at hfound
    · next hexact =>
      obtain ⟨howner, rfl⟩ := hfits.existsKey _ _ _ hfound
      cases h
      refine .inr ⟨hexact.1, rfl, hexact.2.1, hexact.2.2, howner, ?_⟩
      simp only [decide_eq_true_eq]
    · cases hfound
  · obtain ⟨page, hpage, h⟩ := bind_eq_ok_iff.mp h
    have hreply : (next, keys) = page := by
      split at h
      · next hzero =>
        cases h
        rw [nil_append, ← hzero]
      · split at h
        · next hcontinue => simp [shouldContinueKeyScan] at hcontinue
        · cases h
          rfl
    obtain rfl := hreply
    exact .inl (hfits.scan _ _ _ _ _ hpage)

omit [LinearOrder Node] in
/-- The node whose turn it is has not been completed. -/
theorem nextUnfinishedNodeIndex_some (h : session.nextUnfinishedNodeIndex = some index) :
    session.nodeComplete[index]? = some false := by
  simpa using find?_some h

private theorem exists_offset (first : Nat) (h : index < count) :
    ∃ offset < count, (first + offset) % count = index := by
  have hpos : 0 < count := Nat.zero_lt_of_lt h
  refine ⟨(index + (count - first % count)) % count, Nat.mod_lt _ hpos, ?_⟩
  have hsmall := Nat.mod_lt first hpos
  have hwhole :
      first + (index + (count - first % count)) = index + count * (first / count + 1) := by
    have hdiv := Nat.div_add_mod first count
    rw [Nat.mul_add, Nat.mul_one]
    omega
  rw [Nat.add_mod_mod, hwhole, Nat.add_mul_mod_self_left, Nat.mod_eq_of_lt h]

omit [LinearOrder Node] in
private theorem isComplete_of_none (h : session.nextUnfinishedNodeIndex = none)
    (hlength : session.nodeComplete.length = session.masterNodes.length) :
    session.isComplete := by
  rw [isComplete, all_eq_true]
  intro complete hmem
  obtain ⟨index, hindex, rfl⟩ := mem_iff_getElem.mp hmem
  obtain ⟨offset, hoffset, hreached⟩ := exists_offset session.nextNodeIndex (hlength ▸ hindex)
  rw [nextUnfinishedNodeIndex, find?_eq_none] at h
  have hnot := h index (mem_map.mpr ⟨offset, mem_range.mpr hoffset, hreached⟩)
  rw [getElem?_eq_getElem hindex] at hnot
  simpa using hnot

private theorem Tracks.arrive (h : Tracks protocol session keys) {next : Nat} {node : Node}
    {page : List Bytes} (hnode : session.masterNodes[index]? = some node)
    (hopen : session.nodeComplete[index]? = some false)
    (hpage : protocol.page node (session.nodeCursors.getD index 0) next page ∨
      session.nodeCursors.getD index 0 = 0 ∧ next = 0 ∧ Shortcut cluster pattern node page) :
    Tracks protocol (session.arrive index next) (keys ++ page) := by
  have hmaster : node ∈ cluster.masterNodes := (h.nodes node).mp (mem_of_getElem? hnode)
  have howned : ∀ key ∈ page, cluster.owner key = node := by
    rcases hpage with hpage | ⟨-, -, -, -, howner, rfl⟩
    · intro key hkey
      exact cluster.owned node hmaster key (protocol.sound node hmaster _ _ _ hpage key hkey)
    · intro key hkey
      split at hkey
      · rw [mem_singleton.mp hkey]
        exact howner
      · cases hkey
  refine ⟨h.nodes, h.nodup, ?_, ?_, ?_⟩
  · rw [KeyScanSession.arrive, List.length_set, h.cursors]
  · rw [KeyScanSession.arrive, List.length_set, h.completes]
  · intro other otherNode complete hother hcomplete
    rw [KeyScanSession.arrive] at hother hcomplete ⊢
    rw [keysOf, List.filter_append, ← keysOf, ← keysOf]
    by_cases hsame : other = index
    · subst hsame
      obtain rfl := Option.some.inj (hnode.symm.trans hother)
      have hindex : other < session.nodeComplete.length := (List.getElem?_eq_some_iff.mp hopen).1
      have hall : keysOf cluster node page = page :=
        filter_eq_self.mpr fun key hkey => decide_eq_true (howned key hkey)
      have hbefore := h.progress other node false hnode hopen
      rw [getElem?_set_self hindex] at hcomplete
      obtain rfl := Option.some.inj hcomplete
      have hcursor : (session.nodeCursors.set other next).getD other 0 = next := by
        rw [getD_eq_getElem?_getD, getElem?_set_self]
        · rfl
        · rw [h.cursors, ← h.completes]
          exact hindex
      rw [hall, hcursor]
      by_cases hzero : next = 0
      · subst hzero
        rcases hpage with hpage | ⟨hstart, -, hshortcut⟩
        · exact .inl ⟨_, _, _, hbefore, hpage, rfl⟩
        · rw [hstart] at hbefore
          rw [hbefore.eq_nil]
          exact .inr hshortcut
      · rw [Progress, if_neg (by simpa using hzero)]
        rcases hpage with hpage | ⟨-, hstart, -⟩
        · exact .next hbefore hpage hzero
        · exact absurd hstart hzero
    · have hne : node ≠ otherNode := by
        rintro rfl
        refine hsame ((getElem?_inj ?_ h.nodup).mp (hother.trans hnode.symm))
        exact (List.getElem?_eq_some_iff.mp hother).1
      have hnone : keysOf cluster otherNode page = [] := by
        rw [keysOf, filter_eq_nil_iff]
        intro key hkey
        rw [howned key hkey]
        simpa using hne
      rw [getElem?_set_ne (Ne.symm hsame)] at hcomplete
      rw [hnone, append_nil, getD_eq_getElem?_getD, getElem?_set_ne (Ne.symm hsame),
        ← getD_eq_getElem?_getD]
      exact h.progress other otherNode complete hother hcomplete

/-! ### Calls -/

variable {env : CallEnv Node} {store after : ScanSessions Node}

/-- What a session is for. -/
def KeyScanSession.label (session : KeyScanSession Node) : Nat × Bytes × Option (Text × Bool) :=
  (session.db, session.pattern, session.valueFilter)

variable {batch : KeyScanSession Node × List Bytes × Bool} {maxIterations : Nat}

omit [LinearOrder Node] in
private theorem turn_ok {ask : Nat → Node → Nat → Except Text (Nat × List Bytes)} {time : Nat}
    {connected : Nat → Bool} {page : Nat × List Bytes}
    (h : turn env ask time session connected index = .ok page) :
    ∃ node, session.masterNodes[index]? = some node ∧
      ask time node (session.nodeCursors.getD index 0) = .ok page := by
  rw [turn] at h
  split at h
  · cases h
  · next node hnode =>
    obtain ⟨-, -, hask⟩ := bind_eq_ok_iff.mp h
    exact ⟨node, hnode, hask⟩

private theorem batchLoop_tracks (hfits : env.Fits protocol store) (before : List Bytes)
    (remaining : Nat) (session : KeyScanSession Node) (connected : Nat → Bool) (keys : List Bytes)
    (htracks : Tracks protocol session (before ++ keys))
    (h : batchLoop env pattern count remaining session connected keys = .ok batch) :
    Tracks protocol batch.1 (before ++ batch.2.1) ∧ (batch.2.2 → batch.1.isComplete) := by
  induction remaining generalizing session connected keys with
  | zero =>
    cases h
    exact ⟨htracks, fun h => absurd h Bool.false_ne_true⟩
  | succ remaining ih =>
    rw [batchLoop] at h
    split at h
    · next hnone =>
      cases h
      exact ⟨htracks, fun _ => isComplete_of_none hnone htracks.completes⟩
    · next index hindex =>
      obtain ⟨⟨next, page⟩, hturn, h⟩ := bind_eq_ok_iff.mp h
      obtain ⟨node, hnode, hask⟩ := turn_ok hturn
      have harrived := htracks.arrive hnode (nextUnfinishedNodeIndex_some hindex)
        (askKeys_ok hfits hask)
      rw [append_assoc] at harrived
      dsimp only at h
      split at h
      · cases h
        exact ⟨harrived, id⟩
      · exact ih _ _ _ harrived h

private theorem scanClusterKeysBatchOnSession_tracks (hfits : env.Fits protocol store)
    {includeTotalKeys : Bool} (htracks : Tracks protocol session keys)
    (h : scanClusterKeysBatchOnSession env session pattern count maxIterations includeTotalKeys =
      .ok batch) :
    Tracks protocol batch.1 (keys ++ batch.2.1) ∧ (batch.2.2 → batch.1.isComplete) := by
  rw [scanClusterKeysBatchOnSession] at h
  split at h
  · next hdone =>
    cases h
    refine ⟨(append_nil keys).symm ▸ htracks, fun _ => ?_⟩
    rcases (Bool.or_eq_true _ _).mp hdone with hempty | hcomplete
    · have hnil : session.nodeComplete = [] := eq_nil_of_length_eq_zero <|
        htracks.completes.trans (length_eq_zero_iff.mpr (List.isEmpty_iff.mp hempty))
      rw [isComplete, hnil]
      rfl
    · exact hcomplete
  · exact batchLoop_tracks hfits keys _ _ _ _ ((append_nil keys).symm ▸ htracks) h

/-- How a call ends: the sessions and the result, from what the loop does with a session. -/
inductive Called (run : KeyScanSession Node → KeyScanSession Node × List Bytes × Bool → Prop)
    (env : CallEnv Node) (store : ScanSessions Node) (label : Nat × Bytes × Option (Text × Bool))
    (cursor : Nat) : ScanSessions Node × Except Text ScanResult → Prop
  | rejected (hcursor : cursor ≠ 0) :
      Called run env store label cursor (store, .error invalidClusterScanCursorError)
  | failed {e : Text}
      (hlabel : cursor ≠ 0 → ∃ session, store cursor = some session ∧ session.label = label) :
      Called run env store label cursor (store, .error e)
  | empty {nodes : List Node} (hcursor : cursor = 0) (hdiscover : env.discover = .ok nodes)
      (hnone : canonicalClusterMasterNodes nodes = []) :
      Called run env store label cursor (store, .ok ⟨0, [], 0⟩)
  | first {nodes : List Node} {shown counted : Nat}
      {batch : KeyScanSession Node × List Bytes × Bool} (hcursor : cursor = 0)
      (hdiscover : env.discover = .ok nodes)
      (hrun : run { KeyScanSession.new label.1 label.2.2 (canonicalClusterMasterNodes nodes)
        label.2.1 with totalKeys := counted } batch) :
      Called run env store label cursor (keepSession env store cursor shown batch)
  | later {session : KeyScanSession Node} {shown : Nat}
      {batch : KeyScanSession Node × List Bytes × Bool} (hcursor : cursor ≠ 0)
      (hsession : store cursor = some session) (hlabel : session.label = label)
      (hrun : run session batch) :
      Called run env store label cursor (keepSession env store cursor shown batch)

/-- A scan of keys is a call. -/
theorem scanClusterKeysBatchInDb_called (env : CallEnv Node) (store : ScanSessions Node)
    (db cursor : Nat) (pattern : Bytes) (count maxIterations : Nat) :
    Called (fun session batch => ∃ includeTotalKeys, scanClusterKeysBatchOnSession env session
        pattern count maxIterations includeTotalKeys = .ok batch)
      env store (db, pattern, none) cursor
      (scanClusterKeysBatchInDb env store db cursor pattern count maxIterations) := by
  fun_cases scanClusterKeysBatchInDb env store db cursor pattern count maxIterations with
  | case1 hcursor | case3 hcursor => exact .failed (absurd hcursor)
  | case2 hcursor nodes hdiscover _ hnone => exact .empty hcursor hdiscover hnone
  | case4 hcursor nodes hdiscover _ hsome batch hrun =>
    subst hcursor
    exact @Called.first _ _ _ _ _ _ _ _ _ 0 _ rfl hdiscover ⟨true, hrun⟩
  | case5 hcursor | case6 hcursor => exact .rejected hcursor
  | case7 hcursor session hsession hsame e hrun =>
    simp only [not_or, not_not] at hsame
    exact .failed fun _ => ⟨session, hsession, by rw [label, hsame.1, hsame.2.1, hsame.2.2]⟩
  | case8 hcursor session hsession hsame batch hrun =>
    simp only [not_or, not_not] at hsame
    exact .later hcursor hsession (by rw [label, hsame.1, hsame.2.1, hsame.2.2]) ⟨false, hrun⟩

/-- A scan of values is a call. -/
theorem scanClusterValuesPage_called (env : CallEnv Node) (store : ScanSessions Node)
    (db cursor : Nat) (pattern : Bytes) (query : Text) (includeKeyMatches : Bool) :
    Called (fun session batch =>
        ∃ fuel connected, valuesLoop env fuel session connected [] = .ok batch)
      env store (db, pattern, some (query, includeKeyMatches)) cursor
      (scanClusterValuesPage env store db cursor pattern query includeKeyMatches) := by
  fun_cases scanClusterValuesPage env store db cursor pattern query includeKeyMatches with
  | case1 hcursor | case2 _ hcursor => exact .failed (absurd hcursor)
  | case3 filter hcursor nodes hdiscover _ _ batch hrun =>
    subst hcursor
    exact .first rfl hdiscover ⟨_, _, hrun⟩
  | case4 hcursor | case5 _ hcursor => exact .rejected hcursor
  | case6 filter hcursor session hsession hsame e hrun =>
    simp only [not_or, not_not] at hsame
    exact .failed fun _ => ⟨session, hsession, by rw [label, hsame.1, hsame.2.1, hsame.2.2]⟩
  | case7 filter hcursor session hsession hsame batch hrun =>
    simp only [not_or, not_not] at hsame
    exact .later hcursor hsession (by rw [label, hsame.1, hsame.2.1, hsame.2.2]) ⟨_, _, hrun⟩

omit [LinearOrder Node] in
private theorem batchLoop_label (remaining : Nat) (session : KeyScanSession Node)
    (connected : Nat → Bool) (keys : List Bytes)
    (h : batchLoop env pattern count remaining session connected keys = .ok batch) :
    batch.1.label = session.label := by
  fun_induction batchLoop env pattern count remaining session connected keys with
  | case1 | case2 =>
    cases h
    rfl
  | case3 remaining session connected keys index hindex ih =>
    obtain ⟨page, -, h⟩ := bind_eq_ok_iff.mp h
    dsimp only at h
    split at h
    · cases h
      rfl
    · exact ih page h

omit [LinearOrder Node] in
/-- The rounds keep the label. -/
theorem valuesLoop_label (fuel : Nat) (session : KeyScanSession Node) (connected : Nat → Bool)
    (keys : List Bytes) (h : valuesLoop env fuel session connected keys = .ok batch) :
    batch.1.label = session.label := by
  fun_induction valuesLoop env fuel session connected keys with
  | case1 | case2 =>
    cases h
    rfl
  | case3 fuel session connected keys index hindex ih =>
    obtain ⟨page, -, h⟩ := bind_eq_ok_iff.mp h
    dsimp only at h
    split at h
    · cases h
      rfl
    · exact ih page h

omit [LinearOrder Node] in
/-- A batch keeps the label. -/
theorem scanClusterKeysBatchOnSession_label {includeTotalKeys : Bool}
    (h : scanClusterKeysBatchOnSession env session pattern count maxIterations includeTotalKeys =
      .ok batch) : batch.1.label = session.label := by
  rw [scanClusterKeysBatchOnSession] at h
  split at h
  · cases h
    rfl
  · exact batchLoop_label _ _ _ _ h

omit [LinearOrder Node] in
/-- A batch is always answered. -/
theorem exists_keepSession (env : CallEnv Node) (store : ScanSessions Node) (cursor shown : Nat)
    (batch : KeyScanSession Node × List Bytes × Bool) :
    ∃ after result, keepSession env store cursor shown batch = (after, .ok result) := by
  rw [keepSession]
  split <;> exact ⟨_, _, rfl⟩

omit [LinearOrder Node] in
/-- The end of a call that has a result. -/
theorem keepSession_ok {shown : Nat} {result : ScanResult}
    (h : keepSession env store cursor shown batch = (after, .ok result)) :
    result.keys = batch.2.1 ∧
      (batch.2.2 ∧ result.cursor = 0 ∧ after = Function.update store cursor none ∨
        result.cursor = (if cursor = 0 then env.allocated else cursor) ∧
          after = Function.update store result.cursor (some batch.1)) := by
  rw [keepSession] at h
  split at h
  · next hcomplete =>
    cases h
    exact ⟨rfl, .inl ⟨hcomplete, rfl, rfl⟩⟩
  · cases h
    exact ⟨rfl, .inr ⟨rfl, rfl⟩⟩

/-! ### Runs -/

/-- Every cursor starts at zero. -/
theorem getD_replicate_zero (count index : Nat) : (List.replicate count 0).getD index 0 = 0 := by
  rw [getD_eq_getElem?_getD, getElem?_replicate]
  split <;> rfl

private theorem tracks_new {nodes : List Node} (db counted : Nat)
    (h : ∀ node, node ∈ nodes ↔ node ∈ cluster.masterNodes) :
    Tracks protocol { new db none (canonicalClusterMasterNodes nodes) pattern
      with totalKeys := counted } [] := by
  refine ⟨fun node => ?_, nodup_dedup _, length_replicate, length_replicate, ?_⟩
  · rw [← h, new, canonicalClusterMasterNodes, mem_dedup, mem_insertionSort]
  · intro index node complete _ hcomplete
    obtain rfl := (mem_replicate.mp (mem_of_getElem? hcomplete)).2
    rw [Progress, if_neg Bool.false_ne_true, new, getD_replicate_zero]
    exact .start

/-- What a client that has a cursor and some keys relies on. -/
def Continues (protocol : Protocol cluster pattern) (db : Nat) (store : ScanSessions Node)
    (cursor : Nat) (keys : List Bytes) : Prop :=
  if cursor = 0 then keys = []
  else ∃ session, store cursor = some session ∧ session.label = (db, pattern, none) ∧
    Tracks protocol session keys

variable {db : Nat}

section

variable (h : Continues protocol db store cursor keys)

include h

private theorem Continues.page {result : ScanResult} (hfits : env.Fits protocol store)
    (hcall : scanClusterKeysBatchInDb env store db cursor pattern count maxIterations = (after, .ok
      result)) :
    ∃ session, Tracks protocol session (keys ++ result.keys) ∧
      (session.isComplete ∧ result.cursor = 0 ∨
        result.cursor ≠ 0 ∧ after result.cursor = some session ∧
          session.label = (db, pattern, none)) := by
  have hcalled := scanClusterKeysBatchInDb_called env store db cursor pattern count maxIterations
  rw [hcall] at hcalled
  generalize hend : (after, Except.ok result) = ended at hcalled
  cases hcalled with
  | rejected | failed => cases hend
  | @empty nodes hcursor hdiscover hnone =>
    cases hend
    rw [Continues, if_pos hcursor] at h
    subst h
    have htracks : Tracks protocol _ [] := tracks_new db 0 (hfits.discover nodes hdiscover)
    refine ⟨_, htracks, .inl ⟨?_, rfl⟩⟩
    rw [hnone]
    rfl
  | @first nodes shown counted batch hcursor hdiscover hrun =>
    obtain ⟨includeTotalKeys, hrun⟩ := hrun
    rw [Continues, if_pos hcursor] at h
    subst h
    obtain ⟨htracks, hcomplete⟩ := scanClusterKeysBatchOnSession_tracks hfits
      (tracks_new db counted (hfits.discover nodes hdiscover)) hrun
    obtain ⟨hkeys, ⟨hdone, hzero, -⟩ | ⟨hkept, hafter⟩⟩ := keepSession_ok hend.symm
    · exact ⟨_, hkeys ▸ htracks, .inl ⟨hcomplete hdone, hzero⟩⟩
    · refine ⟨_, hkeys ▸ htracks, .inr ⟨?_, ?_, scanClusterKeysBatchOnSession_label hrun⟩⟩
      · rw [hkept, if_pos hcursor]
        exact hfits.allocated.1
      · rw [hafter, Function.update_self]
  | @later session shown batch hcursor hsession hlabel hrun =>
    obtain ⟨includeTotalKeys, hrun⟩ := hrun
    rw [Continues, if_neg hcursor] at h
    obtain ⟨kept, hkept, -, htracks⟩ := h
    obtain rfl := Option.some.inj (hsession.symm.trans hkept)
    obtain ⟨htracks, hcomplete⟩ := scanClusterKeysBatchOnSession_tracks hfits htracks hrun
    obtain ⟨hkeys, ⟨hdone, hzero, -⟩ | ⟨hkept, hafter⟩⟩ := keepSession_ok hend.symm
    · exact ⟨_, hkeys ▸ htracks, .inl ⟨hcomplete hdone, hzero⟩⟩
    · refine ⟨_, hkeys ▸ htracks, .inr ⟨?_, ?_, ?_⟩⟩
      · rw [hkept, if_neg hcursor]
        exact hcursor
      · rw [hafter, Function.update_self]
      · rw [scanClusterKeysBatchOnSession_label hrun, hlabel]

private theorem Continues.failed {e : Text}
    (hcall : scanClusterKeysBatchInDb env store db cursor pattern count maxIterations =
      (after, .error e)) : Continues protocol db after cursor keys := by
  have hcalled := scanClusterKeysBatchInDb_called env store db cursor pattern count maxIterations
  rw [hcall] at hcalled
  generalize hend : (after, Except.error e) = ended at hcalled
  cases hcalled with
  | rejected | failed =>
    cases hend
    exact h
  | empty => cases hend
  | @first _ shown _ batch | @later _ shown batch =>
    obtain ⟨_, _, hkept⟩ := exists_keepSession env store cursor shown batch
    rw [hkept] at hend
    cases hend

end

private theorem Reaches.continues (h : Reaches protocol db store cursor keys) :
    Continues protocol db store cursor keys := by
  induction h with
  | start => rw [Continues, if_pos rfl]
  | other _ hsame ih =>
    rw [Continues] at ih ⊢
    rw [hsame]
    exact ih
  | failed _ _ hcall ih => exact ih.failed hcall
  | page _ hfits hcall hmore ih =>
    obtain ⟨session, htracks, ⟨-, hzero⟩ | ⟨-, hkept, hlabel⟩⟩ := ih.page hfits hcall
    · exact absurd hzero hmore
    · rw [Continues, if_neg hmore]
      exact ⟨session, hkept, hlabel, htracks⟩

/-- The keys of a run are those of a full iteration of every node, or the answer of the owner of the
key that is spelled as the pattern. -/
theorem Finishes.whole (h : Finishes protocol db keys) {node : Node}
    (hnode : node ∈ cluster.masterNodes) :
    Iteration (protocol.page node) (keysOf cluster node keys) ∨
      Shortcut cluster pattern node (keysOf cluster node keys) := by
  obtain ⟨store, cursor, first, count, maxIterations, env, after, result, hreaches, hfits, hcall,
    hzero, rfl⟩ := h
  obtain ⟨session, htracks, ⟨hcomplete, -⟩ | ⟨hmore, -⟩⟩ := hreaches.continues.page hfits hcall
  · obtain ⟨index, hindex, hget⟩ := mem_iff_getElem.mp ((htracks.nodes node).mpr hnode)
    have hflag : session.nodeComplete[index]? = some true := by
      have hlt : index < session.nodeComplete.length := htracks.completes ▸ hindex
      rw [getElem?_eq_getElem hlt]
      exact congrArg some (all_eq_true.mp hcomplete _ (getElem_mem hlt))
    have hprogress := htracks.progress index node true
      (List.getElem?_eq_some_iff.mpr ⟨hindex, hget⟩) hflag
    rwa [Progress, if_pos rfl] at hprogress
  · exact absurd hzero hmore

end Runs

end DbxSpec.Redis
