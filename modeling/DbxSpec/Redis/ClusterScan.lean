import DbxSpec.Base.Fallible

/-!
# Scans over the nodes of a cluster

`scan_cluster_keys_batch_in_db_with` and `scan_cluster_values_page_with` of
`crates/dbx-driver-redis/src/lib.rs:1989-2261`, with `scan_keys_batch_inner` (`lib.rs:3267`). What
the nodes answer in a call is given from outside. Types and times to live, which are asked for
besides, never make a call fail and are left out; sessions neither expire nor are evicted.
-/

namespace DbxSpec.Redis

open DbxSpec.Base

/-- Keys and patterns. -/
abbrev Bytes := List UInt8

/-! ### Patterns -/

/-- A class of characters after its bracket: whether it has a character, and what follows it. -/
def globClass (ch : UInt8) : Nat → Bool → Bytes → Bool × Bytes
  | fuel + 1, found, first :: pattern =>
    if first = '\\'.toUInt8 ∧ pattern ≠ [] then
      globClass ch fuel (found || pattern.head? = some ch) pattern.tail
    else if first = ']'.toUInt8 then (found, pattern)
    else match pattern with
      | dash :: last :: later =>
        if dash = '-'.toUInt8 then
          globClass ch fuel (found || (min first last ≤ ch && ch ≤ max first last)) later
        else globClass ch fuel (found || first = ch) pattern
      | _ => globClass ch fuel (found || first = ch) pattern
  | _, found, pattern => (found, pattern)

/-- The glob patterns of Redis. Every step takes a character of the pattern, so the first argument
never ends it. -/
def globLoop : Nat → Bytes → Bytes → Bool
  | _, [], text => text.isEmpty
  | 0, _, _ => false
  | fuel + 1, first :: pattern, text =>
    if first = '*'.toUInt8 then text.tails.any (globLoop fuel pattern)
    else match text with
      | [] => false
      | ch :: rest =>
        if first = '?'.toUInt8 then globLoop fuel pattern rest
        else if first = '['.toUInt8 then
          let negated : Bool := pattern.head? = some '^'.toUInt8
          let read := globClass ch fuel false (if negated then pattern.tail else pattern)
          (read.1 != negated) && globLoop fuel read.2 rest
        else if first = '\\'.toUInt8 ∧ pattern ≠ [] then
          decide (pattern.head? = some ch) && globLoop fuel pattern.tail rest
        else decide (first = ch) && globLoop fuel pattern rest

/-- A key matches a pattern. -/
def globMatch (pattern key : Bytes) : Bool := globLoop pattern.length pattern key

/-- `lib.rs:3283`. -/
def isExactMatch (pattern : Bytes) : Bool :=
  !pattern.contains '*'.toUInt8 && !pattern.contains '?'.toUInt8 && !pattern.contains '['.toUInt8

/-! ### Pages of a node -/

/-- `lib.rs:3408`. -/
def shouldContinueKeyScan (matchedKeys targetKeys completedIterations maxIterations : Nat) : Bool :=
  decide (matchedKeys < max targetKeys 1) && decide (completedIterations < max maxIterations 1)

/-- The loop of `lib.rs:3323`, with the answers to `SCAN`. -/
def scanKeysLoop (scan : Nat → Except Text (Nat × List Bytes)) (count iterations : Nat) :
    Nat → Nat → List Bytes → Except Text (Nat × List Bytes)
  | 0, cursor, keys => .ok (cursor, keys)
  | remaining + 1, cursor, keys =>
    (scan cursor).bind fun page =>
      if page.1 = 0 then .ok (0, keys ++ page.2)
      else if shouldContinueKeyScan (keys ++ page.2).length count (iterations - remaining)
          iterations then scanKeysLoop scan count iterations remaining page.1 (keys ++ page.2)
      else .ok (page.1, keys ++ page.2)

/-- `lib.rs:3267`, with the answer to `EXISTS`. Where it is not asked for, or fails, the node is
scanned. -/
def scanKeysBatchInner (existsKey : Except Text Bool) (scan : Nat → Except Text (Nat × List Bytes))
    (cursor : Nat) (pattern : Bytes) (count maxIterations : Nat) : Except Text (Nat × List Bytes) :=
  let iterations := max maxIterations 1
  let asked : Except Text Bool :=
    if cursor = 0 ∧ isExactMatch pattern ∧ pattern ≠ [] then existsKey else .error []
  match asked with
  | .ok found => .ok (0, if found then [pattern] else [])
  | .error _ => scanKeysLoop scan count iterations iterations cursor []

/-! ### Sessions -/

variable {Node : Type} [LinearOrder Node]

/-- `lib.rs:457`. -/
structure KeyScanSession (Node : Type) where
  db : Nat
  valueFilter : Option (Text × Bool)
  totalKeys : Nat := 0
  masterNodes : List Node
  nodeCursors : List Nat
  nodeComplete : List Bool
  nextNodeIndex : Nat := 0
  pattern : Bytes

namespace KeyScanSession

/-- `lib.rs:470`. -/
def new (db : Nat) (valueFilter : Option (Text × Bool)) (masterNodes : List Node)
    (pattern : Bytes) : KeyScanSession Node where
  db := db
  valueFilter := valueFilter
  masterNodes := masterNodes
  nodeCursors := List.replicate masterNodes.length 0
  nodeComplete := List.replicate masterNodes.length false
  pattern := pattern

variable (session : KeyScanSession Node)

/-- `lib.rs:485`. -/
def nextUnfinishedNodeIndex : Option Nat :=
  ((List.range session.masterNodes.length).map fun offset =>
    (session.nextNodeIndex + offset) % session.masterNodes.length).find? fun index =>
      session.nodeComplete[index]? = some false

/-- `lib.rs:496`. -/
def isComplete : Bool := session.nodeComplete.all id

/-- A page of a node, `lib.rs:2117-2119`. -/
def arrive (index cursor : Nat) : KeyScanSession Node :=
  { session with
    nodeCursors := session.nodeCursors.set index cursor
    nodeComplete := session.nodeComplete.set index (cursor = 0)
    nextNodeIndex := (index + 1) % session.masterNodes.length }

end KeyScanSession

/-- `lib.rs:502`. -/
abbrev ScanSessions (Node : Type) := Nat → Option (KeyScanSession Node)

/-- What happens in a call: the answers of the nodes, each at most once in a turn of the loop, and
the cursor that is allocated. The counter of cursors is shared by all pools. -/
structure CallEnv (Node : Type) where
  discover : Except Text (List Node)
  /-- The first connections, for the number of keys. -/
  greet : Node → Except Text Unit
  dbSize : Node → Except Text Nat
  connect : Nat → Node → Except Text Unit
  existsKey : Nat → Node → Except Text Bool
  scan : Nat → Node → Nat → Except Text (Nat × List Bytes)
  /-- `scan_values_page_inner`. -/
  scanValues : Nat → Node → Nat → Except Text (Nat × List Bytes)
  allocated : Nat

/-- `lib.rs:100`. -/
structure ScanResult where
  cursor : Nat
  keys : List Bytes
  totalKeys : Nat

/-- `lib.rs:53`. -/
def invalidClusterScanCursorError : Text :=
  "Redis cluster scan cursor is invalid or expired"

/-- `lib.rs:2130`. -/
def canonicalClusterMasterNodes (masterNodes : List Node) : List Node :=
  (masterNodes.insertionSort (· ≤ ·)).dedup

section Calls

variable (env : CallEnv Node)

/-- The sum of `lib.rs:2081-2091`. -/
def countKeys (masterNodes : List Node) : Nat :=
  (masterNodes.map fun node =>
    ((env.greet node).bind fun _ => env.dbSize node).toOption.getD 0).sum

/-- The connections that are there after the number of keys was asked for. -/
def greeted (masterNodes : List Node) (index : Nat) : Bool :=
  masterNodes[index]?.any fun node => (env.greet node).isOk

/-- A page of the node whose turn it is. -/
def turn (ask : Nat → Node → Nat → Except Text (Nat × List Bytes)) (time : Nat)
    (session : KeyScanSession Node) (connected : Nat → Bool) (index : Nat) :
    Except Text (Nat × List Bytes) :=
  match session.masterNodes[index]? with
  | none => .error "Redis cluster node connection unavailable"
  | some node => (if connected index then .ok () else env.connect time node).bind fun _ =>
      ask time node (session.nodeCursors.getD index 0)

/-- A page of keys. -/
def askKeys (pattern : Bytes) (count time : Nat) (node : Node) (cursor : Nat) :
    Except Text (Nat × List Bytes) :=
  scanKeysBatchInner (env.existsKey time node) (env.scan time node) cursor pattern count 1

/-- The loop of `lib.rs:2097`: the session, the keys, and whether the scan is complete. -/
def batchLoop (pattern : Bytes) (count : Nat) : Nat → KeyScanSession Node → (Nat → Bool) →
    List Bytes → Except Text (KeyScanSession Node × List Bytes × Bool)
  | 0, session, _, keys => .ok (session, keys, false)
  | remaining + 1, session, connected, keys =>
    match session.nextUnfinishedNodeIndex with
    | none => .ok (session, keys, true)
    | some index =>
      (turn env (askKeys env pattern count) remaining session connected index).bind fun page =>
        let session := session.arrive index page.1
        let keys := keys ++ page.2
        if session.isComplete || decide (max count 1 ≤ keys.length) then
          .ok (session, keys, session.isComplete)
        else batchLoop pattern count remaining session (Function.update connected index true) keys

/-- `lib.rs:2063`. -/
def scanClusterKeysBatchOnSession (session : KeyScanSession Node) (pattern : Bytes)
    (count maxIterations : Nat) (includeTotalKeys : Bool) :
    Except Text (KeyScanSession Node × List Bytes × Bool) :=
  if session.masterNodes.isEmpty || session.isComplete then .ok (session, [], true)
  else batchLoop env pattern count (max maxIterations 1) session
    (fun index => includeTotalKeys && greeted env session.masterNodes index) []

variable (store : ScanSessions Node)

/-- The end of a call: the session is kept under its cursor, or under a new one. -/
def keepSession (cursor totalKeys : Nat) (batch : KeyScanSession Node × List Bytes × Bool) :
    ScanSessions Node × Except Text ScanResult :=
  if batch.2.2 then (Function.update store cursor none, .ok ⟨0, batch.2.1, totalKeys⟩)
  else
    let kept := if cursor = 0 then env.allocated else cursor
    (Function.update store kept (some batch.1), .ok ⟨kept, batch.2.1, totalKeys⟩)

/-- `lib.rs:1989`. A call that fails leaves the session of its cursor as it was. -/
def scanClusterKeysBatchInDb (db cursor : Nat) (pattern : Bytes)
    (count maxIterations : Nat) : ScanSessions Node × Except Text ScanResult :=
  if cursor = 0 then
    match env.discover with
    | .error e => (store, .error e)
    | .ok nodes =>
      let masterNodes := canonicalClusterMasterNodes nodes
      if masterNodes = [] then (store, .ok ⟨0, [], 0⟩)
      else match scanClusterKeysBatchOnSession env (.new db none masterNodes pattern) pattern count
          maxIterations true with
        | .error e => (store, .error e)
        | .ok batch => keepSession env store 0 (countKeys env masterNodes) batch
  else match store cursor with
    | none => (store, .error invalidClusterScanCursorError)
    | some session =>
      if session.pattern ≠ pattern ∨ session.db ≠ db ∨ session.valueFilter ≠ none then
        (store, .error invalidClusterScanCursorError)
      else match scanClusterKeysBatchOnSession env session pattern count maxIterations false with
        | .error e => (store, .error e)
        | .ok batch => keepSession env store cursor 0 batch

/-- The loop of `lib.rs:2219`. Every turn but the last one completes a node, so the first argument
never ends it. -/
def valuesLoop : Nat → KeyScanSession Node → (Nat → Bool) → List Bytes →
    Except Text (KeyScanSession Node × List Bytes × Bool)
  | 0, session, _, keys => .ok (session, keys, session.isComplete)
  | fuel + 1, session, connected, keys =>
    match session.nextUnfinishedNodeIndex with
    | none => .ok (session, keys, session.isComplete)
    | some index =>
      (turn env env.scanValues fuel session connected index).bind fun page =>
        let session := session.arrive index page.1
        let keys := keys ++ page.2
        if keys ≠ [] ∨ page.1 ≠ 0 then .ok (session, keys, session.isComplete)
        else valuesLoop fuel session (Function.update connected index true) keys

/-- `lib.rs:2171`. -/
def scanClusterValuesPage (db cursor : Nat) (pattern : Bytes)
    (query : Text) (includeKeyMatches : Bool) : ScanSessions Node × Except Text ScanResult :=
  let filter := some (query, includeKeyMatches)
  if cursor = 0 then
    match env.discover with
    | .error e => (store, .error e)
    | .ok nodes =>
      let masterNodes := canonicalClusterMasterNodes nodes
      let session := { KeyScanSession.new db filter masterNodes pattern with
        totalKeys := countKeys env masterNodes }
      match valuesLoop env (masterNodes.length + 1) session (greeted env masterNodes) [] with
      | .error e => (store, .error e)
      | .ok batch => keepSession env store 0 batch.1.totalKeys batch
  else match store cursor with
    | none => (store, .error invalidClusterScanCursorError)
    | some session =>
      if session.db ≠ db ∨ session.pattern ≠ pattern ∨ session.valueFilter ≠ filter then
        (store, .error invalidClusterScanCursorError)
      else match valuesLoop env (session.masterNodes.length + 1) session (fun _ => false) [] with
        | .error e => (store, .error e)
        | .ok batch => keepSession env store cursor batch.1.totalKeys batch

end Calls

end DbxSpec.Redis
