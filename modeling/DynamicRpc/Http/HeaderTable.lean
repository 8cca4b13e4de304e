import DynamicRpc.Http.HeaderName

/-!
The table in which a collection of headers looks its names up. A name stands in the first slot from
its home on that is free or holds a name nearer to its own home; that one moves on. Names that go
far from home or move many others are taken for an attack: the next name makes the table grow, if a
fifth of it is in use, or else be filled anew by a hash with secret keys, after which it is never
watched again. A table that is as large as tables get cannot grow, and then no name is taken,
watched or not.
-/
namespace DynamicRpc.Http

/-! Hashes -/

/-- Names that are known by a number. -/
def standardNames : List String :=
  ["accept", "accept-charset", "accept-encoding", "accept-language", "accept-ranges",
    "access-control-allow-credentials", "access-control-allow-headers",
    "access-control-allow-methods", "access-control-allow-origin",
    "access-control-expose-headers", "access-control-max-age", "access-control-request-headers",
    "access-control-request-method", "age", "allow", "alt-svc", "authorization", "cache-control",
    "cache-status", "cdn-cache-control", "connection", "content-disposition", "content-encoding",
    "content-language", "content-length", "content-location", "content-range",
    "content-security-policy", "content-security-policy-report-only", "content-type", "cookie",
    "dnt", "date", "etag", "expect", "expires", "forwarded", "from", "host", "if-match",
    "if-modified-since", "if-none-match", "if-range", "if-unmodified-since", "last-modified",
    "link", "location", "max-forwards", "origin", "pragma", "proxy-authenticate",
    "proxy-authorization", "public-key-pins", "public-key-pins-report-only", "range", "referer",
    "referrer-policy", "refresh", "retry-after", "sec-websocket-accept",
    "sec-websocket-extensions", "sec-websocket-key", "sec-websocket-protocol",
    "sec-websocket-version", "server", "set-cookie", "strict-transport-security", "te", "trailer",
    "transfer-encoding", "user-agent", "upgrade", "upgrade-insecure-requests", "vary", "via",
    "warning", "www-authenticate", "x-content-type-options", "x-dns-prefetch-control",
    "x-frame-options", "x-xss-protection"]

/-- A word of 64 bits, the lowest byte first. -/
def wordBytes (n : Nat) : List UInt8 := (List.range 8).map fun i => (n / Nat.pow 256 i).toUInt8

/-- The hash of some bytes, by multiplication with a prime. -/
def hashBytes (bytes : List UInt8) : Nat :=
  bytes.foldl (fun h b => Nat.xor h b.toNat * 0x100000001b3 % 0x10000000000000000)
    0xcbf29ce484222325

/-- How many slots a table can have. Hashes are below it. -/
def maxSlots : Nat := 32768

def HeaderName.hash (n : HeaderName) : Nat :=
  let bytes := match standardNames.idxOf? n.text with
    | some number => wordBytes 0 ++ wordBytes number
    | none => wordBytes 1 ++ Text.toBytes n.text
  hashBytes bytes % maxSlots

/-! Slots -/

structure Slot where
  name : HeaderName
  hash : Nat
  deriving DecidableEq, Repr

abbrev Slots := Array (Option Slot)

namespace Slots

/-- The slots of no name. -/
def free (size : Nat) : Slots := Array.replicate size none

/-- The slots follow each other in a circle. -/
def read (t : Slots) (i : Nat) : Option Slot := t.getD (i % t.size) none

def write (t : Slots) (i : Nat) (s : Option Slot) : Slots := t.setIfInBounds (i % t.size) s

/-- How far a name is from its home. -/
def distance (t : Slots) (s : Slot) (i : Nat) : Nat :=
  (i % t.size + t.size - s.hash % t.size) % t.size

/-- How far from its home a name with this hash goes. -/
def reach (t : Slots) (hash : Nat) : Nat → Nat → Nat
  | 0, far => far
  | fuel + 1, far =>
    match t.read (hash + far) with
    | none => far
    | some s => if t.distance s (hash + far) < far then far else reach t hash fuel (far + 1)

/-- Puts a name in a slot and moves the ones from there on. Gives how many have moved. -/
def move : Nat → Slots → Slot → Nat → Nat → Slots × Nat
  | 0, t, _, _, moved => (t, moved)
  | fuel + 1, t, s, i, moved =>
    match t.read i with
    | none => (t.write i (some s), moved)
    | some other => move fuel (t.write i (some s)) other (i + 1) (moved + 1)

/-- The first free slot. -/
def vacancy (t : Slots) : Nat → Nat → Nat
  | 0, i => i
  | fuel + 1, i => if (t.read i).isNone then i else vacancy t fuel (i + 1)

/-- The slots in the order in which they can be filled anew: from a name at home on. -/
def fromHome (t : Slots) : List (Option Slot) :=
  let first := (List.range t.size).find? fun i => (t.read i).any fun s => t.distance s i = 0
  t.toList.rotateLeft (first.getD 0)

/-- The same names in another number of slots. -/
def resize (t : Slots) (size : Nat) : Slots :=
  t.fromHome.foldl (fun u s =>
    match s with
    | some s => u.write (u.vacancy size s.hash) (some s)
    | none => u) (free size)

/-- Moves names one back towards their home, into a slot that got free. -/
def close : Nat → Slots → Nat → Slots
  | 0, t, _ => t
  | fuel + 1, t, gap =>
    match t.read (gap + 1) with
    | none => t
    | some s =>
      if t.distance s (gap + 1) = 0 then t
      else close fuel ((t.write gap (some s)).write (gap + 1) none) (gap + 1)

def erase (t : Slots) (n : HeaderName) : Slots :=
  match (List.range t.size).find? fun i => (t.read i).any (·.name = n) with
  | some i => close t.size (t.write i none) i
  | none => t

@[simp] theorem size_free (size : Nat) : (free size).size = size := Array.size_replicate

@[simp] theorem size_write (t : Slots) (i : Nat) (s : Option Slot) : (t.write i s).size = t.size :=
  Array.size_setIfInBounds

@[simp] theorem size_move (fuel : Nat) (t : Slots) (s : Slot) (i moved : Nat) :
    (move fuel t s i moved).1.size = t.size := by
  induction fuel generalizing t s i moved with
  | zero => rfl
  | succ fuel ih =>
    rw [move]
    split
    · exact size_write ..
    · rw [ih, size_write]

@[simp] theorem size_resize (t : Slots) (size : Nat) : (t.resize size).size = size := by
  refine List.foldlRecOn (motive := fun u : Slots => u.size = size) _ _ (size_free size) ?_
  intro u kept s _
  cases s with
  | none => exact kept
  | some s => exact (size_write ..).trans kept

@[simp] theorem size_close (fuel : Nat) (t : Slots) (gap : Nat) :
    (close fuel t gap).size = t.size := by
  induction fuel generalizing t gap with
  | zero => rfl
  | succ fuel ih =>
    rw [close]
    split
    · rfl
    · split
      · rfl
      · rw [ih, size_write, size_write]

@[simp] theorem size_erase (t : Slots) (n : HeaderName) : (t.erase n).size = t.size := by
  unfold erase
  split
  · rw [size_close, size_write]
  · rfl

end Slots

/-! Tables -/

/-- How a table is watched: no name went far, one just did, or the hash is secret. -/
inductive Watch where
  | calm
  | alarmed
  | secret
  deriving DecidableEq, Repr

/-- The numbers of slots that tables can have. -/
def tableSizes : List Nat :=
  [0, 1, 2, 4, 8, 16, 32, 64, 128, 256, 512, 1024, 2048, 4096, 8192, 16384, 32768]

structure Table where
  /-- Nobody sees where names stand by a secret hash, so that the slots are left free then. -/
  slots : Slots
  watch : Watch
  sized : slots.size ∈ tableSizes
  deriving DecidableEq, Repr

namespace Table

def empty : Table := ⟨.free 0, .calm, by decide⟩

/-- How many names find room in the slots. -/
def capacity (t : Table) : Nat := t.slots.size - t.slots.size / 4

theorem double_mem {size : Nat} (h : size ∈ tableSizes) (few : 2 * size ≤ maxSlots) :
    2 * size ∈ tableSizes := by
  have all : ∀ size ∈ tableSizes, 2 * size ≤ maxSlots → 2 * size ∈ tableSizes := by decide
  exact all size h few

/-- Twice as many slots, if there may be as many. -/
def grow (t : Table) (watch : Watch) : Option Table :=
  if few : 2 * t.slots.size ≤ maxSlots then
    some ⟨match watch with
      | .secret => .free (2 * t.slots.size)
      | _ => t.slots.resize (2 * t.slots.size), watch, by
        cases watch <;> simp [double_mem t.sized few]⟩
  else none

/-- Makes room for a name beside so many, and looks after an alarm. -/
def reserve (t : Table) (count : Nat) : Option Table :=
  if t.slots.size = 0 then some ⟨.free 8, t.watch, by decide⟩
  else if t.watch = .alarmed then
    if t.slots.size ≤ 5 * count then t.grow .calm
    else some ⟨.free t.slots.size, .secret, by simpa using t.sized⟩
  else if count = t.capacity then t.grow t.watch
  else some t

/-- A distance from home at which a name raises alarm if it takes the slot of another. -/
def farDistance : Nat := 512

/-- How many other names a name can move without alarm. -/
def manyMoves : Nat := 128

/-- Adds a name that is new. -/
def insert (t : Table) (n : HeaderName) : Table :=
  if t.watch = .secret then t
  else
    let s : Slot := ⟨n, n.hash⟩
    let far := t.slots.reach s.hash t.slots.size 0
    let i := s.hash + far
    match t.slots.read i with
    | none => ⟨t.slots.write i (some s), t.watch, by simpa using t.sized⟩
    | some _ =>
      let moved := Slots.move t.slots.size t.slots s i 0
      ⟨moved.1, if farDistance ≤ far || manyMoves ≤ moved.2 then .alarmed else t.watch,
        by simpa [moved] using t.sized⟩

def remove (t : Table) (n : HeaderName) : Table :=
  if t.watch = .secret then t else ⟨t.slots.erase n, t.watch, by simpa using t.sized⟩

@[simp] theorem capacity_insert (t : Table) (n : HeaderName) :
    (t.insert n).capacity = t.capacity := by
  unfold insert
  split
  · rfl
  · dsimp only
    split
    · rw [capacity, capacity, Slots.size_write]
    · rw [capacity, capacity, Slots.size_move]

@[simp] theorem capacity_remove (t : Table) (n : HeaderName) :
    (t.remove n).capacity = t.capacity := by
  unfold remove
  split
  · rfl
  · rw [capacity, capacity, Slots.size_erase]

theorem size_grow {t t' : Table} {watch : Watch} (h : t.grow watch = some t') :
    t'.slots.size = 2 * t.slots.size := by
  unfold grow at h
  split at h
  · cases h
    cases watch <;> simp
  · cases h

/-- A table with room for so many names has room for one more once it is reserved. -/
theorem lt_capacity_of_reserve {t t' : Table} {count : Nat} (room : count ≤ t.capacity)
    (h : t.reserve count = some t') : count < t'.capacity := by
  unfold reserve at h
  unfold capacity at room
  split at h
  next none =>
    cases h
    rw [capacity, Slots.size_free]
    omega
  next some =>
    split at h
    · split at h
      · rw [capacity, size_grow h]
        omega
      · cases h
        rw [capacity, Slots.size_free]
        omega
    · split at h
      · rw [capacity, size_grow h]
        omega
      next other =>
        cases h
        unfold capacity at other ⊢
        omega

end Table

end DynamicRpc.Http
