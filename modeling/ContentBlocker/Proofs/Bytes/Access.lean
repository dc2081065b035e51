import ContentBlocker.Proofs.Bytes.Placement
/-!
# Reading on a machine with sizes of 64 bits

The functions that read an index are stated over natural numbers and answer for every position. On a
machine a position is a number below `2 ^ 64`: a sum, difference, product or shift that does not fit
is a fault, and so is a position outside an array, unless the reading checks for itself and answers
with an option. `Access` is a computation that such faults break off, and `Access.Iterator` one that
is asked for its items one by one and has fewer left each time.
-/

namespace ContentBlocker

/-- What breaks a reading off. -/
inductive AccessFault where
  /-- a result does not fit into its type -/
  | overflow
  /-- an index or the start of a slice lies outside the array -/
  | outOfRange
  deriving DecidableEq, Repr

/-- A reading that faults break off. -/
abbrev Access : Type → Type := Except AccessFault

namespace Access

/-- Sizes and positions are below this. -/
def limit : Nat := 2 ^ 64

/-- A sum that must fit. -/
def add (a b : Nat) : Access Nat := if a + b < limit then .ok (a + b) else .error .overflow

/-- A product that must fit. -/
def mul (a b : Nat) : Access Nat := if a * b < limit then .ok (a * b) else .error .overflow

/-- A difference that must not be negative. -/
def sub (a b : Nat) : Access Nat := if b ≤ a then .ok (a - b) else .error .overflow

/-- A word shifted by less than its width. -/
def shiftLeft (n : UInt32) (shift : Nat) : Access UInt32 :=
  if shift < 32 then .ok (n <<< UInt32.ofNat shift) else .error .overflow

/-- The byte at a position, which must lie in the array. -/
def byte (data : ByteArray) (i : Nat) : Access UInt8 :=
  match data[i]? with
  | some b => .ok b
  | none => .error .outOfRange

/-- The bytes from a position on, which must not lie behind the array. -/
def dropFrom (data : ByteArray) (start : Nat) : Access ByteArray :=
  if start ≤ data.size then .ok (data.extract start data.size) else .error .outOfRange

/-- A sum, if it fits. -/
def checkedAdd? (a b : Nat) : Option Nat := if a + b < limit then some (a + b) else none

/-- A product, if it fits. -/
def checkedMul? (a b : Nat) : Option Nat := if a * b < limit then some (a * b) else none

/-- A sum, or the greatest size. -/
def saturatingAdd (a b : Nat) : Nat := min (a + b) (limit - 1)

/-- A product, or the greatest size. -/
def saturatingMul (a b : Nat) : Nat := min (a * b) (limit - 1)

/-- The bytes between two positions, if they are in order and in the array. -/
def between? (data : ByteArray) (start stop : Nat) : Option ByteArray :=
  if start ≤ stop ∧ stop ≤ data.size then some (data.extract start stop) else none

/-- The four-byte number at a position, if it lies in the array. -/
def u32At? (data : ByteArray) (i : Nat) : Access (Option UInt32) :=
  match (checkedAdd? i 4).bind (between? data i) with
  | none => return none
  | some bytes => do
    return some (Bytes.ofBytes32 (← byte bytes 0) (← byte bytes 1) (← byte bytes 2)
      (← byte bytes 3))

/-- The four-byte number at a position as a size; zero outside the array. -/
def natAt (data : ByteArray) (i : Nat) : Access Nat :=
  return ((← u32At? data i).map UInt32.toNat).getD 0

section Spec

variable {a b i start stop : Nat} {data : ByteArray}

/-- A reading goes on with what was read. -/
theorem bind_ok {α β : Type} {x : Access α} {a : α} (read : x = .ok a) (f : α → Access β) :
    x >>= f = f a := by
  rw [read]
  rfl

theorem lt_limit {n : Nat} (fits : n < 2 ^ 63) : n < limit := Nat.lt_trans fits (by decide)

theorem add_eq (fits : a + b < limit) : add a b = .ok (a + b) := if_pos fits

theorem mul_eq (fits : a * b < limit) : mul a b = .ok (a * b) := if_pos fits

theorem sub_eq (fits : b ≤ a) : sub a b = .ok (a - b) := if_pos fits

theorem checkedAdd?_eq (fits : a + b < limit) : checkedAdd? a b = some (a + b) := if_pos fits

theorem checkedMul?_eq (fits : a * b < limit) : checkedMul? a b = some (a * b) := if_pos fits

theorem saturatingAdd_eq (fits : a + b < limit) : saturatingAdd a b = a + b :=
  Nat.min_eq_left (Nat.le_sub_one_of_lt fits)

theorem saturatingMul_eq (fits : a * b < limit) : saturatingMul a b = a * b :=
  Nat.min_eq_left (Nat.le_sub_one_of_lt fits)

theorem dropFrom_eq (inside : start ≤ data.size) :
    dropFrom data start = .ok (data.extract start data.size) := if_pos inside

theorem between?_eq (order : start ≤ stop) (inside : stop ≤ data.size) :
    between? data start stop = some (data.extract start stop) := if_pos ⟨order, inside⟩

theorem between?_eq_none (outside : data.size < stop) : between? data start stop = none :=
  if_neg fun both => absurd both.2 (Nat.not_le.2 outside)

/-- A slice given by its length. -/
theorem between?_add (data : ByteArray) (start length : Nat) :
    between? data start (start + length) = Bytes.slice? data start length := by
  simp [between?, Bytes.slice?]

theorem byte_eq {b : UInt8} (there : data[i]? = some b) : byte data i = .ok b := by
  rw [byte, there]

/-- What stands at a position of a slice stands in the array as far behind the slice's start. -/
theorem getElem?_extract (inside : stop ≤ data.size) (before : start + i < stop) :
    (data.extract start stop)[i]? = data[start + i]? := by
  rw [getElem?_pos _ i (by rw [ByteArray.size_extract]; omega), getElem?_pos data _ (by omega),
    ByteArray.getElem_extract]

theorem bytesAt?_extract (inside : stop ≤ data.size) (before : start + i + 4 ≤ stop) :
    Bytes.u32At? (data.extract start stop) i = Bytes.u32At? data (start + i) := by
  simp only [Bytes.u32At?_eq, Nat.add_assoc]
  rw [getElem?_extract inside (by omega), getElem?_extract inside (by omega),
    getElem?_extract inside (by omega), getElem?_extract inside (by omega)]

/-- The reading that checks for itself finds the number wherever there is one. -/
theorem u32At?_eq (fits : data.size < limit) (i : Nat) :
    u32At? data i = .ok (Bytes.u32At? data i) := by
  unfold u32At?
  by_cases inside : i + 4 ≤ data.size
  · have stands (k : Nat) (h : k < 4) :
        ∃ b, data[i + k]? = some b ∧ byte (data.extract i (i + 4)) k = .ok b := by
      have there := getElem?_pos data (i + k) (by omega)
      refine ⟨_, there, byte_eq ?_⟩
      rw [getElem?_extract inside (by omega), there]
    obtain ⟨b0, at0, read0⟩ := stands 0 (by decide)
    obtain ⟨b1, at1, read1⟩ := stands 1 (by decide)
    obtain ⟨b2, at2, read2⟩ := stands 2 (by decide)
    obtain ⟨b3, at3, read3⟩ := stands 3 (by decide)
    rw [checkedAdd?_eq (by omega), Option.bind_some, between?_eq (by omega) inside,
      Bytes.u32At?_eq, at1, at2, at3]
    rw [Nat.add_zero] at at0
    simp only [at0, read0, read1, read2, read3]
    rfl
  · have nothing : (checkedAdd? i 4).bind (between? data i) = none := by
      unfold checkedAdd?
      split
      · exact between?_eq_none (by omega)
      · rfl
    rw [nothing, Bytes.u32At?, dif_neg inside]
    rfl

theorem natAt_eq (fits : data.size < limit) (i : Nat) :
    natAt data i = .ok (Bytes.natAt data i) := by
  rw [natAt, u32At?_eq fits]
  rfl

end Spec

/-- A computation that is asked for its items one by one. Each item leaves less to be read, so that
asking on comes to an end. -/
structure Iterator (σ α : Type) where
  next : σ → Access (Option (α × σ))
  left : σ → Nat
  shrinks : ∀ {s a s'}, next s = .ok (some (a, s')) → left s' < left s

namespace Iterator

variable {σ α : Type}

/-- All items, asked for until there are no more. -/
def all (it : Iterator σ α) (s : σ) : Access (List α) :=
  match _ : it.next s with
  | .error fault => .error fault
  | .ok none => .ok []
  | .ok (some (a, s')) => do return a :: (← it.all s')
termination_by it.left s
decreasing_by exact it.shrinks ‹_›

/-- Whether all items pass a test, asked for until one does not. -/
def every (it : Iterator σ α) (p : α → Bool) (s : σ) : Access Bool :=
  match _ : it.next s with
  | .error fault => .error fault
  | .ok none => .ok true
  | .ok (some (a, s')) => if p a then it.every p s' else .ok false
termination_by it.left s
decreasing_by exact it.shrinks ‹_›

variable {it : Iterator σ α}

theorem all_eq (s : σ) : it.all s =
    match it.next s with
    | .error fault => .error fault
    | .ok none => .ok []
    | .ok (some (a, s')) => do return a :: (← it.all s') := by
  rw [all]
  split <;> simp_all

theorem every_eq (p : α → Bool) (s : σ) : it.every p s =
    match it.next s with
    | .error fault => .error fault
    | .ok none => .ok true
    | .ok (some (a, s')) => if p a then it.every p s' else .ok false := by
  rw [every]
  split <;> simp_all

theorem all_of_end {s : σ} (ends : it.next s = .ok none) : it.all s = .ok [] := by
  rw [all_eq, ends]

theorem all_of_item {s s' : σ} {a : α} {as : List α} (asked : it.next s = .ok (some (a, s')))
    (others : it.all s' = .ok as) : it.all s = .ok (a :: as) := by
  rw [all_eq, asked]
  simp only [others]
  rfl

/-- Asking for fewer items breaks off no sooner than asking for all. -/
theorem every_of_all (p : α → Bool) {s : σ} {as : List α} (items : it.all s = .ok as) :
    it.every p s = .ok (as.all p) := by
  fun_induction it.all s generalizing as with
  | case1 s fault asked => cases items
  | case2 s asked =>
    cases items
    rw [every_eq, asked]
    rfl
  | case3 s a s' asked ih =>
    cases others : it.all s' with
    | error fault =>
      rw [others] at items
      cases items
    | ok rest =>
      rw [others] at items
      cases items
      rw [every_eq, asked, List.all_cons]
      by_cases passes : p a
      · simpa [passes] using ih others
      · simp [passes]

/-- The first position from `i` on at which something is found, and the one behind it. -/
def nextSome (find : Nat → Access (Option α)) (stop i : Nat) : Access (Option (α × Nat)) :=
  if i < stop then do
    match ← find i with
    | some a => return some (a, i + 1)
    | none => nextSome find stop (i + 1)
  else return none
termination_by stop - i

theorem lt_of_nextSome {find : Nat → Access (Option α)} {stop i next : Nat} {a : α}
    (found : nextSome find stop i = .ok (some (a, next))) : i < next ∧ i < stop := by
  fun_induction nextSome find stop i with
  | case1 i inside ih =>
    cases here : find i with
    | error fault =>
      rw [here] at found
      cases found
    | ok answer =>
      rw [here] at found
      cases answer with
      | some b =>
        cases found
        exact ⟨Nat.lt_succ_self i, inside⟩
      | none =>
        have later := ih found
        omega
  | case2 i outside => cases found

/-- What is found at the positions before `stop`. -/
def ofRange (find : Nat → Access (Option α)) (stop : Nat) : Iterator Nat α where
  next := nextSome find stop
  left i := stop - i
  shrinks found := by
    have := lt_of_nextSome found
    omega

theorem all_ofRange {find : Nat → Access (Option α)} {found : Nat → Option α} {start stop : Nat}
    (finds : ∀ i, start ≤ i → i < stop → find i = .ok (found i)) :
    (ofRange find stop).all start =
      .ok ((List.range' start (stop - start)).filterMap found) := by
  induction remaining : stop - start generalizing start with
  | zero =>
    refine all_of_end ?_
    change nextSome find stop start = .ok none
    rw [nextSome, if_neg (by omega)]
    rfl
  | succ n ih =>
    have inside : start < stop := by omega
    have others := ih (fun i low => finds i (by omega)) (by omega : stop - (start + 1) = n)
    have here := finds start (Nat.le_refl _) inside
    rw [List.range'_succ]
    cases answer : found start with
    | some a =>
      rw [List.filterMap_cons_some answer]
      refine all_of_item ?_ others
      change nextSome find stop start = .ok (some (a, start + 1))
      rw [nextSome, if_pos inside, here, answer]
      rfl
    | none =>
      rw [List.filterMap_cons_none answer, ← others, all_eq, all_eq (start + 1)]
      have same : (ofRange find stop).next start = (ofRange find stop).next (start + 1) := by
        change nextSome find stop start = nextSome find stop (start + 1)
        rw [nextSome, if_pos inside, here, answer]
        rfl
      rw [same]

end Iterator

end Access

end ContentBlocker
