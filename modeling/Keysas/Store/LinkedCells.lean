import Keysas.Store.KeyedTable

/-!
# Cells in a list of addresses

Cells lie in memory under addresses, and a list that is linked through them has the addresses of
some. Memory and list are changed by different operations, so that the list can come to have the
address of a cell that was freed.

`Valid` says that this has not happened, and that no address is in the list twice. `Covers` says
that every cell is in the list. A new cell that is put at the head of the list keeps both, and so
does a change of a cell; `valid_free_iff` says that freeing a cell keeps the list valid exactly when
the cell is not in it.
-/

set_option autoImplicit false
set_option relaxedAutoImplicit false

namespace Store

/-- Cells by their addresses, and the list. -/
structure LinkedCells (κ ν : Type) where
  cells : Table κ ν
  order : List κ

variable {κ ν : Type}

namespace LinkedCells

/-- The list has the addresses of cells, each of them once. -/
structure Valid (linked : LinkedCells κ ν) : Prop where
  live : ∀ address ∈ linked.order, address ∈ linked.cells
  nodup : linked.order.Nodup

/-- Every cell is in the list. -/
def Covers (linked : LinkedCells κ ν) : Prop :=
  ∀ address ∈ linked.cells, address ∈ linked.order

/-- No cells. -/
def empty : LinkedCells κ ν := ⟨∅, []⟩

theorem valid_empty : (empty : LinkedCells κ ν).Valid :=
  ⟨nofun, .nil⟩

theorem covers_empty : (empty : LinkedCells κ ν).Covers := by
  intro address haddress
  cases haddress

variable [DecidableEq κ]

/-- A cell under a new address, at the head of the list. -/
def push (linked : LinkedCells κ ν) (address : κ) (cell : ν) : LinkedCells κ ν :=
  ⟨linked.cells.insert address cell, address :: linked.order⟩

/-- Change a cell, if there is one under the address. -/
def update (linked : LinkedCells κ ν) (address : κ) (change : ν → ν) : LinkedCells κ ν :=
  match linked.cells.lookup address with
  | none => linked
  | some cell => { linked with cells := linked.cells.insert address (change cell) }

/-- Free a cell. The list stays as it is. -/
def free (linked : LinkedCells κ ν) (address : κ) : LinkedCells κ ν :=
  { linked with cells := linked.cells.erase address }

variable {linked : LinkedCells κ ν} {address : κ}

@[simp] theorem order_update (change : ν → ν) :
    (linked.update address change).order = linked.order := by
  rw [update]
  split <;> rfl

/-- A change of a cell is seen under its address only. -/
theorem lookup_update (change : ν → ν) (other : κ) :
    (linked.update address change).cells.lookup other =
      if other = address then (linked.cells.lookup address).map change
      else linked.cells.lookup other := by
  rw [update]
  rcases hlookup : linked.cells.lookup address with _ | cell
  · split_ifs with hother
    · rw [hother, hlookup]
      rfl
    · rfl
  · exact assigns_insert linked.cells address (change cell) other

/-- A change of a cell does not change which cells there are. -/
@[simp] theorem mem_cells_update (change : ν → ν) {other : κ} :
    other ∈ (linked.update address change).cells ↔ other ∈ linked.cells := by
  rw [← AList.lookup_isSome, ← AList.lookup_isSome, lookup_update]
  split_ifs with hother
  · rw [hother, Option.isSome_map]
  · rfl

/-! ### Validity -/

theorem Valid.push (hvalid : linked.Valid) (hnew : address ∉ linked.cells) (cell : ν) :
    (linked.push address cell).Valid := by
  constructor
  · intro other hother
    refine (AList.mem_insert linked.cells).mpr ?_
    exact (List.mem_cons.mp hother).imp_right (hvalid.live other)
  · exact List.nodup_cons.mpr ⟨fun hlisted ↦ hnew (hvalid.live address hlisted), hvalid.nodup⟩

@[simp] theorem valid_update_iff (change : ν → ν) :
    (linked.update address change).Valid ↔ linked.Valid := by
  constructor
  · intro hvalid
    exact ⟨by simpa using hvalid.live, by simpa using hvalid.nodup⟩
  · intro hvalid
    exact ⟨by simpa using hvalid.live, by simpa using hvalid.nodup⟩

/-- Freeing a cell keeps the list valid exactly when the cell is not in it. -/
theorem valid_free_iff (hvalid : linked.Valid) :
    (linked.free address).Valid ↔ address ∉ linked.order := by
  constructor
  · intro hafter hlisted
    exact (AList.mem_erase.mp (hafter.live address hlisted)).1 rfl
  · intro hlisted
    refine ⟨fun other hother ↦ AList.mem_erase.mpr ⟨?_, hvalid.live other hother⟩, hvalid.nodup⟩
    rintro rfl
    exact hlisted hother

/-! ### Cells outside the list -/

theorem Covers.push (hcovers : linked.Covers) (cell : ν) : (linked.push address cell).Covers := by
  intro other hother
  refine List.mem_cons.mpr ?_
  exact ((AList.mem_insert linked.cells).mp hother).imp_right (hcovers other)

theorem Covers.update (hcovers : linked.Covers) (change : ν → ν) :
    (linked.update address change).Covers := by
  intro other hother
  rw [order_update]
  exact hcovers other ((mem_cells_update change).mp hother)

theorem Covers.free (hcovers : linked.Covers) : (linked.free address).Covers :=
  fun other hother ↦ hcovers other (AList.mem_erase.mp hother).2

/-- A cell that is freed was in the list, when all are. -/
theorem not_valid_free (hvalid : linked.Valid) (hcovers : linked.Covers)
    (haddress : address ∈ linked.cells) : ¬(linked.free address).Valid := by
  rw [valid_free_iff hvalid, not_not]
  exact hcovers address haddress

end LinkedCells

end Store
