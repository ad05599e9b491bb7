import NativeIpc.Core.Validation

/-!
# Acknowledgement routes

Every producer slot is acknowledged in exactly one cell of the opposite
direction. `validate_routes` checks this by counting: the routes are as many
as the slots and as the cells, each is valid on its own, and no two name the
same slot or the same cell. The lookup is a binary search over the routes in
key order.
-/

namespace NativeIpc.Core

open NativeIpc.Lib Run List AcknowledgementRoute

variable {t : Target}

/-- A producer slot or an acknowledgement cell: a role and an index. -/
abbrev Place := RoleId × Nat

/-- The slot that a route acknowledges. -/
def AcknowledgementRoute.slot (route : AcknowledgementRoute) : Place :=
  (route.target, route.slotIndex.toNat)

/-- The cell that a route writes. -/
def AcknowledgementRoute.cell (route : AcknowledgementRoute) : Place :=
  (route.owner, route.cellIndex.toNat)

/-- All places of one kind, each once when the roles are distinct. -/
def places (count : RegionSpec → UInt32) (specs : List RegionSpec) : List Place :=
  specs.flatMap fun spec => (List.range (count spec).toNat).map fun i => (spec.role, i)

variable {specs : List RegionSpec} {regions : List (RegionLayout t)}
    {routes : List AcknowledgementRoute} {schemaId : FixedBytes 32} {generation : UInt64}
    {route : AcknowledgementRoute} {limits : LayoutLimits} {target : RoleId} {slotIndex : UInt32}
  {count : RegionSpec → UInt32}

theorem mem_places {place : Place} :
    place ∈ places count specs ↔
      ∃ spec ∈ specs, spec.role = place.1 ∧ place.2 < (count spec).toNat := by
  obtain ⟨role, i⟩ := place
  simp only [places, mem_flatMap, mem_map, mem_range, Prod.mk.injEq]
  constructor
  · rintro ⟨spec, hspec, j, hj, hrole, rfl⟩
    exact ⟨spec, hspec, hrole, hj⟩
  · rintro ⟨spec, hspec, hrole, hi⟩
    exact ⟨spec, hspec, i, hi, hrole, rfl⟩

theorem length_places (count : RegionSpec → UInt32) (specs : List RegionSpec) :
    (places count specs).length = (specs.map fun spec => (count spec).toNat).sum := by
  simp [places, length_flatMap]

theorem nodup_places (count : RegionSpec → UInt32)
    (distinct : (specs.map (·.role)).Nodup) : (places count specs).Nodup := by
  induction specs with
  | nil => simp [places]
  | cons spec rest ih =>
    rw [map_cons, nodup_cons] at distinct
    have hhead : ((List.range (count spec).toNat).map fun i => (spec.role, i)).Nodup :=
      nodup_range.map fun _ _ h => (Prod.mk.inj h).2
    rw [places, flatMap_cons, nodup_append']
    refine ⟨hhead, ih distinct.2, ?_⟩
    intro place hplace hrest
    obtain ⟨other, hother, hrole, -⟩ := mem_places.mp hrest
    obtain ⟨i, -, rfl⟩ := mem_map.mp hplace
    exact distinct.1 (mem_map.mpr ⟨other, hother, hrole⟩)

/-- The routes match all slots with all cells, one to one, across directions. -/
structure PerfectMatching (specs : List RegionSpec) (routes : List AcknowledgementRoute) :
    Prop where
  slots_once : (routes.map (·.slot)).Nodup
  cells_once : (routes.map (·.cell)).Nodup
  slots_all : ∀ place, place ∈ routes.map (·.slot) ↔ place ∈ places (·.slotCount) specs
  cells_all : ∀ place, place ∈ routes.map (·.cell) ↔ place ∈ places (·.acknowledgementCount) specs
  opposite : ∀ route ∈ routes, ∀ target ∈ specs, ∀ owner ∈ specs, target.role = route.target →
    owner.role = route.owner → owner.writer ≠ target.writer

/-- A family of distinct places inside as many places is all of them. -/
theorem covers_iff_length (distinct : (specs.map (·.role)).Nodup) {family : List Place}
    (once : family.Nodup) (inside : ∀ place ∈ family, place ∈ places count specs) :
    (∀ place, place ∈ family ↔ place ∈ places count specs) ↔
      family.length = (specs.map fun spec => (count spec).toNat).sum := by
  rw [← length_places]
  constructor
  · intro same
    exact ((perm_ext_iff_of_nodup once (nodup_places count distinct)).mpr same).length_eq
  · intro hlen place
    exact ((subperm_of_subset once inside).perm_of_length_le (by omega)).mem_iff

/-! ### The counting loops -/

/-- The checked sum is the exact one, or it does not fit `usize`. -/
theorem totalCount_eq_ok {count : RegionHeader → UInt32} {total : Nat} :
    totalCount count regions = .ok total ↔
      (regions.map fun region => (count region.header).toNat).sum < 2 ^ t.bits ∧
        total = (regions.map fun region => (count region.header).toNat).sum := by
  suffices general : ∀ start < 2 ^ t.bits, regions.foldlM (fun total region =>
        (okOr (checkedAdd t.bits total (count region.header).toNat) .overflow : LayoutRun Nat))
        start = .ok total ↔
      start + (regions.map fun region => (count region.header).toNat).sum < 2 ^ t.bits ∧
        total = start + (regions.map fun region => (count region.header).toNat).sum by
    simpa [totalCount] using general 0 (Nat.two_pow_pos _)
  induction regions with
  | nil =>
    intro start hstart
    simp only [foldlM_nil, pure_eq_ok, map_nil, sum_nil, Nat.add_zero, hstart, true_and]
    exact eq_comm
  | cons region rest ih =>
    intro start hstart
    simp only [foldlM_cons, bind_eq_ok, okOr_eq_ok, checkedAdd_eq_some, map_cons, sum_cons]
    constructor
    · rintro ⟨_, ⟨hfit, rfl⟩, hrest⟩
      rw [ih _ hfit] at hrest
      omega
    · rintro ⟨hfit, rfl⟩
      refine ⟨_, ⟨by omega, rfl⟩, ?_⟩
      rw [ih _ (by omega)]
      omega

/-- A route that is valid for the regions, before duplicates are considered. -/
def RouteValid (regions : List (RegionLayout t)) (route : AcknowledgementRoute) : Prop :=
  ∃ owner target, findRegion regions route.owner = some owner ∧
    findRegion regions route.target = some target ∧
    owner.role ≠ target.role ∧ owner.writer ≠ target.writer ∧
    route.slotIndex < target.header.slotCount ∧
    route.cellIndex < owner.header.acknowledgementCount

/-- The route loop accepts exactly valid routes of which no two clash. -/
theorem pushRoutes_eq_ok {accepted specs result : List AcknowledgementRoute} :
    specs.foldlM (pushRoute regions) accepted = .ok result ↔
      (∀ spec ∈ specs, RouteValid regions spec) ∧
      (∀ route ∈ accepted, ∀ spec ∈ specs, ¬ route.Clashes spec) ∧
      specs.Pairwise (fun a b => ¬ a.Clashes b) ∧ result = accepted ++ specs := by
  induction specs generalizing accepted with
  | nil => simpa [pure_eq_ok] using eq_comm
  | cons spec rest ih =>
    simp only [foldlM_cons, bind_eq_ok, pushRoute_eq_ok, forall_mem_cons, pairwise_cons]
    constructor
    · rintro ⟨_, ⟨valid, fresh, rfl⟩, hrest⟩
      obtain ⟨allValid, allFresh, pairwise, rfl⟩ := ih.mp hrest
      refine ⟨⟨valid, allValid⟩, ?_, ⟨?_, pairwise⟩, by simp⟩
      · intro route hroute
        exact ⟨fresh route hroute, allFresh route (by simp [hroute])⟩
      · exact allFresh spec (by simp)
    · rintro ⟨⟨valid, allValid⟩, fresh, ⟨hspec, pairwise⟩, rfl⟩
      refine ⟨_, ⟨valid, fun route hroute => (fresh route hroute).1, rfl⟩, ?_⟩
      refine ih.mpr ⟨allValid, ?_, pairwise, by simp⟩
      intro route hroute
      rcases mem_append.mp hroute with hroute | hroute
      · exact (fresh route hroute).2
      · rw [mem_singleton.mp hroute]
        exact hspec

open AcknowledgementRoute

theorem not_clashes_iff {a b : AcknowledgementRoute} :
    ¬ a.Clashes b ↔ a.slot ≠ b.slot ∧ a.cell ≠ b.cell := by
  simp only [Clashes, slot, cell, not_or, ne_eq, Prod.mk.injEq, UInt32.toNat_inj]

/-- `validate_routes` in closed form. -/
theorem validateRoutes_eq_ok {specs : List AcknowledgementRoute} :
    validateRoutes regions specs = .ok routes ↔
      specs.length < 2 ^ t.bits ∧
      specs.length = (regions.map fun region => region.header.slotCount.toNat).sum ∧
      specs.length = (regions.map fun region => region.header.acknowledgementCount.toNat).sum ∧
      (∀ spec ∈ specs, RouteValid regions spec) ∧ (specs.map (·.slot)).Nodup ∧
      (specs.map (·.cell)).Nodup ∧ routes = specs := by
  have hpairwise : specs.Pairwise (fun a b => ¬ a.Clashes b) ↔
      (specs.map (·.slot)).Nodup ∧ (specs.map (·.cell)).Nodup := by
    simp only [List.Nodup, pairwise_map, not_clashes_iff, ← pairwise_and_iff]
  simp only [validateRoutes, bind_eq_ok, totalCount_eq_ok, rejectIf_eq_ok, exists_const,
    pushRoutes_eq_ok, hpairwise, not_or, not_not, not_mem_nil, false_imp_iff, implies_true,
    true_and, nil_append]
  constructor
  · rintro ⟨_, ⟨fits, rfl⟩, _, ⟨-, rfl⟩, ⟨hslots, hcells⟩, valid, ⟨slots, cells⟩, rfl⟩
    exact ⟨by omega, hslots, hcells, valid, slots, cells, rfl⟩
  · rintro ⟨fits, hslots, hcells, valid, slots, cells, rfl⟩
    exact ⟨_, ⟨by omega, rfl⟩, _, ⟨by omega, rfl⟩, ⟨hslots, hcells⟩, valid, ⟨slots, cells⟩, rfl⟩

/-! ### Calculated regions and their specifications -/

open RegionLayout

theorem RegionLayout.writer_of_header {region : RegionLayout t} {spec : RegionSpec}
    (hheader : region.header = spec.header schemaId generation) : region.writer = spec.writer := by
  rw [writer_eq_iff, hheader]
  exact Endpoint.fromRaw_raw spec.writer

section Specs

variable {schemaId : FixedBytes 32} {generation : UInt64} {specs : List RegionSpec}
  {regions : List (RegionLayout t)}
  (headers : regions.map (·.header) = specs.map (·.header schemaId generation))

include headers

theorem findRegion_some_spec {role : RoleId} {region : RegionLayout t}
    (found : findRegion regions role = some region) :
    ∃ spec ∈ specs, spec.role = role ∧ region.header = spec.header schemaId generation := by
  have hmem : region.header ∈ specs.map (·.header schemaId generation) := by
    rw [← headers]
    exact mem_map_of_mem (findRegion_mem found)
  obtain ⟨spec, hspec, hheader⟩ := mem_map.mp hmem
  refine ⟨spec, hspec, ?_, hheader.symm⟩
  have hrole := findRegion_role found
  cases hspecRole : spec.role
  subst hrole
  simp [role, ← hheader, RegionSpec.header, hspecRole]

theorem findRegion_of_spec {spec : RegionSpec} (hspec : spec ∈ specs) :
    ∃ region, findRegion regions spec.role = some region := by
  have hmem : spec.role ∈ regions.map (·.role) := by
    rw [calculateRegions_roles headers]
    exact mem_map_of_mem hspec
  obtain ⟨region, hregion, hrole⟩ := mem_map.mp hmem
  rw [← Option.isSome_iff_exists]
  exact find?_isSome.mpr ⟨region, hregion, by simpa using hrole⟩

theorem sum_headers (count : RegionHeader → UInt32) :
    (regions.map fun region => (count region.header).toNat).sum =
      (specs.map fun spec => (count (spec.header schemaId generation)).toNat).sum := by
  have h := congrArg (fun hs : List RegionHeader => (hs.map fun h => (count h).toNat).sum) headers
  simpa [map_map, Function.comp_def] using h

/-- With distinct roles, a route is valid exactly when its slot and its cell
    exist and their regions have opposite writers. -/
theorem routeValid_iff (distinct : (specs.map (·.role)).Nodup) :
    RouteValid regions route ↔
      route.slot ∈ places (·.slotCount) specs ∧ route.cell ∈ places (·.acknowledgementCount) specs ∧
      ∀ target ∈ specs, ∀ owner ∈ specs, target.role = route.target → owner.role = route.owner →
        owner.writer ≠ target.writer := by
  have unique {a b : RegionSpec} (ha : a ∈ specs) (hb : b ∈ specs) (hrole : a.role = b.role) :
      a = b := inj_on_of_nodup_map distinct ha hb hrole
  rw [mem_places, mem_places]
  constructor
  · rintro ⟨owner, target, howner, htarget, -, hwriter, hslot, hcell⟩
    obtain ⟨ospec, hospec, horole, hoheader⟩ := findRegion_some_spec headers howner
    obtain ⟨tspec, htspec, htrole, htheader⟩ := findRegion_some_spec headers htarget
    rw [htheader] at hslot
    rw [hoheader] at hcell
    refine ⟨⟨tspec, htspec, htrole, UInt32.lt_iff_toNat_lt.mp hslot⟩,
      ⟨ospec, hospec, horole, UInt32.lt_iff_toNat_lt.mp hcell⟩, ?_⟩
    intro a ha b hb haRole hbRole
    obtain rfl := unique ha htspec (haRole.trans htrole.symm)
    obtain rfl := unique hb hospec (hbRole.trans horole.symm)
    rwa [writer_of_header hoheader,
      writer_of_header htheader] at hwriter
  · rintro ⟨⟨tspec, htspec, htrole, hslot⟩, ⟨ospec, hospec, horole, hcell⟩, opposite⟩
    obtain ⟨owner, howner⟩ := findRegion_of_spec headers hospec
    obtain ⟨target, htarget⟩ := findRegion_of_spec headers htspec
    obtain ⟨a, ha, haRole, hoheader⟩ := findRegion_some_spec headers howner
    obtain ⟨b, hb, hbRole, htheader⟩ := findRegion_some_spec headers htarget
    obtain rfl := unique ha hospec haRole
    obtain rfl := unique hb htspec hbRole
    have hwriter : owner.writer ≠ target.writer := by
      rw [writer_of_header hoheader, writer_of_header htheader]
      exact opposite _ htspec _ hospec htrole horole
    simp only [slot] at htrole hslot
    simp only [cell] at horole hcell
    refine ⟨owner, target, horole ▸ howner, htrole ▸ htarget, ?_, hwriter, ?_, ?_⟩
    · -- the regions of one role have one writer
      intro hrole
      rw [findRegion_role howner, findRegion_role htarget] at hrole
      obtain rfl := unique hospec htspec hrole
      cases howner.symm.trans htarget
      exact hwriter rfl
    · rw [htheader]
      exact UInt32.lt_iff_toNat_lt.mpr hslot
    · rw [hoheader]
      exact UInt32.lt_iff_toNat_lt.mpr hcell

/-- Counting makes the checked routes a perfect matching. -/
theorem validateRoutes_iff_perfectMatching (distinct : (specs.map (·.role)).Nodup)
    (fits : routes.length < 2 ^ t.bits) :
    (∃ accepted, validateRoutes regions routes = .ok accepted) ↔ PerfectMatching specs routes := by
  have hslotSum := sum_headers headers (·.slotCount)
  have hcellSum := sum_headers headers (·.acknowledgementCount)
  simp only [validateRoutes_eq_ok, routeValid_iff headers distinct]
  constructor
  · rintro ⟨-, -, hslots, hcells, valid, slots, cells, -⟩
    have slotsInside : ∀ place ∈ routes.map (·.slot), place ∈ places (·.slotCount) specs := by
      intro place hplace
      obtain ⟨route, hroute, rfl⟩ := mem_map.mp hplace
      exact (valid route hroute).1
    have cellsInside : ∀ place ∈ routes.map (·.cell),
        place ∈ places (·.acknowledgementCount) specs := by
      intro place hplace
      obtain ⟨route, hroute, rfl⟩ := mem_map.mp hplace
      exact (valid route hroute).2.1
    refine ⟨slots, cells, ?_, ?_, fun route hroute => (valid route hroute).2.2⟩
    · refine (covers_iff_length distinct slots slotsInside).mpr ?_
      rw [length_map, hslots, hslotSum]
      rfl
    · refine (covers_iff_length distinct cells cellsInside).mpr ?_
      rw [length_map, hcells, hcellSum]
      rfl
  · intro matching
    have hslots := (covers_iff_length distinct matching.slots_once
      fun place => (matching.slots_all place).mp).mp matching.slots_all
    have hcells := (covers_iff_length distinct matching.cells_once
      fun place => (matching.cells_all place).mp).mp matching.cells_all
    rw [length_map] at hslots hcells
    refine ⟨routes, fits, hslots.trans hslotSum.symm, hcells.trans hcellSum.symm, ?_,
      matching.slots_once, matching.cells_once, rfl⟩
    intro route hroute
    exact ⟨(matching.slots_all _).mp (mem_map_of_mem hroute),
      (matching.cells_all _).mp (mem_map_of_mem hroute), matching.opposite route hroute⟩

end Specs

/-- What a successful calculation returns. -/
theorem RegionSetLayout.calculate_eq_ok {topology : RegionSetLayout t} :
    RegionSetLayout.calculate t schemaId generation specs routes limits = .ok topology ↔
      generation ≠ 0 ∧ specs ≠ [] ∧
      calculateRegions t schemaId generation limits [] specs = .ok topology.regions ∧
      validateRoutes topology.regions routes = .ok topology.routes := by
  unfold RegionSetLayout.calculate
  split
  · rename_i zero
    simp [fail, zero]
  · rename_i nonzero
    split
    · rename_i empty
      simp [fail, List.isEmpty_iff.mp empty]
    · rename_i nonempty
      have hspecs : specs ≠ [] := by simpa [List.isEmpty_iff] using nonempty
      split
      · rename_i stop failed
        simp [failed]
      · rename_i regions calculated
        split
        · rename_i stop failed
          simp only [reduceCtorEq, false_iff]
          rintro ⟨-, -, hregions, hvalid⟩
          cases calculated.symm.trans hregions
          cases failed.symm.trans hvalid
        · rename_i accepted valid
          constructor
          · intro h
            cases h
            exact ⟨nonzero, hspecs, calculated, valid⟩
          · rintro ⟨-, -, hregions, hvalid⟩
            obtain ⟨regions', routes', lookup, distinct, generations, routesValid, built⟩ := topology
            cases calculated.symm.trans hregions
            cases valid.symm.trans hvalid
            subst built
            rfl

theorem RegionSetLayout.exists_calculate {accepted : List AcknowledgementRoute}
    (nonzero : generation ≠ 0) (nonempty : specs ≠ [])
    (hregions : calculateRegions t schemaId generation limits [] specs = .ok regions)
    (hroutes : validateRoutes regions routes = .ok accepted) :
    ∃ topology : RegionSetLayout t,
      RegionSetLayout.calculate t schemaId generation specs routes limits = .ok topology := by
  unfold RegionSetLayout.calculate
  rw [dif_neg nonzero, if_neg (by simpa [List.isEmpty_iff] using nonempty)]
  split
  · rename_i stop failed
    cases failed.symm.trans hregions
  · rename_i calculated
    cases calculated.symm.trans hregions
    split
    · rename_i stop failed
      cases failed.symm.trans hroutes
    · exact ⟨_, rfl⟩

/-! ### Lookup -/

namespace RegionSetLayout

variable (topology : RegionSetLayout t)

theorem slots_nodup : (topology.routes.map (·.slot)).Nodup :=
  (validateRoutes_eq_ok.mp topology.routes_valid).2.2.2.2.1

theorem routes_nodup : topology.routes.Nodup := topology.slots_nodup.of_map

end RegionSetLayout

theorem AcknowledgementRoute.key_eq_iff :
    route.key = toLex (target.get.toNat, slotIndex.toNat) ↔
      route.target = target ∧ route.slotIndex = slotIndex := by
  obtain ⟨owner, ⟨rtarget, hr⟩, rslot, cell⟩ := route
  obtain ⟨target, ht⟩ := target
  simp [key, UInt32.toNat_inj]

theorem AcknowledgementRoute.key_inj {a b : AcknowledgementRoute} (h : a.key = b.key) :
    a.slot = b.slot := by
  obtain ⟨htarget, hslot⟩ := key_eq_iff.mp h
  simp [slot, htarget, hslot]

namespace RegionSetLayout

variable (topology : RegionSetLayout t)

/-- Different positions of the route list have different keys. -/
theorem key_injective :
    Function.Injective fun i : Fin topology.routes.length => (topology.routes.get i).key := by
  intro i j h
  have hslot := key_inj h
  have hinj := nodup_iff_injective_get.mp topology.slots_nodup
  have hsame : (⟨i, by simp⟩ : Fin (topology.routes.map (·.slot)).length) = ⟨j, by simp⟩ :=
    hinj (by simpa using hslot)
  exact Fin.ext (Fin.mk.inj hsame)

/-- The lookup holds the positions in strictly increasing key order. -/
theorem lookup_sorted : topology.routeLookup.Pairwise fun i j =>
    (topology.routes.get i).key < (topology.routes.get j).key := by
  let r := fun i j : Fin topology.routes.length =>
    (topology.routes.get i).key ≤ (topology.routes.get j).key
  have sorted : topology.routeLookup.Pairwise r := by
    rw [topology.lookup_built]
    exact pairwise_insertionSort r _
  have distinct : topology.routeLookup.Nodup := by
    rw [topology.lookup_built]
    exact (perm_insertionSort _ _).nodup_iff.mpr (nodup_finRange _)
  refine (sorted.and distinct).imp ?_
  rintro i j ⟨hle, hne⟩
  exact lt_of_le_of_ne hle fun h => hne (topology.key_injective h)

theorem mem_routeLookup (i : Fin topology.routes.length) : i ∈ topology.routeLookup := by
  rw [topology.lookup_built]
  exact (mem_insertionSort _).mpr (mem_finRange i)

/-- Two routes of one slot are one route. -/
theorem eq_of_slot {a b : AcknowledgementRoute} (ha : a ∈ topology.routes)
    (hb : b ∈ topology.routes) (hslot : a.slot = b.slot) : a = b :=
  inj_on_of_nodup_map topology.slots_nodup ha hb hslot

/-- Two routes to one cell are one route. -/
theorem eq_of_cell {a b : AcknowledgementRoute} (ha : a ∈ topology.routes)
    (hb : b ∈ topology.routes) (hcell : a.cell = b.cell) : a = b := by
  obtain ⟨-, -, -, -, -, cells, -⟩ := validateRoutes_eq_ok.mp topology.routes_valid
  exact inj_on_of_nodup_map cells ha hb hcell

/-- A route is looked up exactly where it stands in the route list. -/
theorem acknowledgementRoute_eq_some :
    topology.acknowledgementRoute target slotIndex = some route ↔
      route ∈ topology.routes ∧ route.target = target ∧ route.slotIndex = slotIndex := by
  have hsearch := binarySearch_eq_find (toLex (target.get.toNat, slotIndex.toNat))
    topology.lookup_sorted
  have hroute : topology.acknowledgementRoute target slotIndex =
      (topology.routeLookup.find? fun i => decide ((topology.routes.get i).key =
        toLex (target.get.toNat, slotIndex.toNat))).map topology.routes.get := by
    rw [← hsearch, Option.map_bind]
    rfl
  rw [hroute, Option.map_eq_some_iff]
  constructor
  · rintro ⟨i, hfind, rfl⟩
    have hkey : (topology.routes.get i).key = toLex (target.get.toNat, slotIndex.toNat) := by
      simpa using find?_some hfind
    exact ⟨get_mem _ i, key_eq_iff.mp hkey⟩
  · rintro ⟨hmem, hkey⟩
    obtain ⟨i, rfl⟩ := get_of_mem hmem
    have hkey := key_eq_iff.mpr hkey
    cases hfind : topology.routeLookup.find? fun i => decide ((topology.routes.get i).key =
        toLex (target.get.toNat, slotIndex.toNat)) with
    | none =>
      exact absurd (decide_eq_true hkey) (find?_eq_none.mp hfind i (topology.mem_routeLookup i))
    | some j =>
      have hj : (topology.routes.get j).key = toLex (target.get.toNat, slotIndex.toNat) := by
        simpa using find?_some hfind
      rw [topology.key_injective (hj.trans hkey.symm)]
      exact ⟨i, rfl, rfl⟩

/-- The linear search of the route list for a slot. -/
def linearRoute (routes : List AcknowledgementRoute) (target : RoleId) (slotIndex : UInt32) :
    Option AcknowledgementRoute :=
  routes.find? fun route => decide (route.target = target ∧ route.slotIndex = slotIndex)

theorem linearRoute_eq_some :
    linearRoute topology.routes target slotIndex = some route ↔
      route ∈ topology.routes ∧ route.target = target ∧ route.slotIndex = slotIndex := by
  constructor
  · intro hfind
    exact ⟨mem_of_find?_eq_some hfind, by simpa using find?_some hfind⟩
  · rintro ⟨hmem, htarget, hslot⟩
    cases hfind : linearRoute topology.routes target slotIndex with
    | none =>
      have := find?_eq_none.mp hfind route hmem
      simp [htarget, hslot] at this
    | some other =>
      have hother : other.target = target ∧ other.slotIndex = slotIndex := by
        simpa using find?_some hfind
      rw [topology.eq_of_slot (mem_of_find?_eq_some hfind) hmem]
      simp [slot, hother, htarget, hslot]

theorem acknowledgementRoute_eq_linearRoute (target : RoleId) (slotIndex : UInt32) :
    topology.acknowledgementRoute target slotIndex =
      linearRoute topology.routes target slotIndex := by
  apply Option.ext
  intro route
  rw [topology.acknowledgementRoute_eq_some, topology.linearRoute_eq_some]

/-- Topologies with the same set of routes have the same route function. -/
theorem acknowledgementRoute_congr {topology other : RegionSetLayout t}
    (same : ∀ route, route ∈ topology.routes ↔ route ∈ other.routes) (target : RoleId)
    (slotIndex : UInt32) :
    topology.acknowledgementRoute target slotIndex =
      other.acknowledgementRoute target slotIndex := by
  apply Option.ext
  intro route
  rw [topology.acknowledgementRoute_eq_some, other.acknowledgementRoute_eq_some, same]

end RegionSetLayout

/-- `matches_topology` compares the header and the route sets: the routes of a
    topology are distinct, so equal length and inclusion make the sets equal. -/
theorem matchesTopology_iff {layout : ValidatedRegionLayout t} {topology other : RegionSetLayout t}
    (routes : layout.routes = topology.routes) :
    layout.matchesTopology other = true ↔
      (∃ region, other.region layout.role = some region ∧ region.header = layout.header) ∧
        ∀ route, route ∈ topology.routes ↔ route ∈ other.routes := by
  have hroutes : (topology.routes.length = other.routes.length ∧
      ∀ route ∈ topology.routes, route ∈ other.routes) ↔
        ∀ route, route ∈ topology.routes ↔ route ∈ other.routes := by
    constructor
    · rintro ⟨hlen, hsub⟩ route
      exact ((subperm_of_subset topology.routes_nodup hsub).perm_of_length_le (by omega)).mem_iff
    · intro same
      refine ⟨?_, fun route => (same route).mp⟩
      exact ((perm_ext_iff_of_nodup topology.routes_nodup other.routes_nodup).mpr same).length_eq
  rw [ValidatedRegionLayout.matchesTopology, routes, Bool.and_eq_true, Bool.and_eq_true,
    decide_eq_true_iff, all_eq_true, and_assoc, ← hroutes]
  cases other.region layout.role <;> simp

/-! ### The routes of a calculated region set -/

/-- Regions that can be calculated one by one can be calculated as a set. -/
theorem exists_calculateRegions (distinct : (specs.map (·.role)).Nodup)
    (calculable : ∀ spec ∈ specs, ∃ region : RegionLayout t,
      calculate t schemaId generation spec limits = .ok region) :
    ∃ regions : List (RegionLayout t),
      calculateRegions t schemaId generation limits [] specs = .ok regions := by
  have headers : ∃ regions : List (RegionLayout t),
      regions.map (·.header) = specs.map (·.header schemaId generation) := by
    clear distinct
    induction specs with
    | nil => exact ⟨[], rfl⟩
    | cons spec rest ih =>
      obtain ⟨regions, hregions⟩ := ih fun other hother => calculable other (by simp [hother])
      obtain ⟨region, hregion⟩ := calculable spec (by simp)
      refine ⟨region :: regions, ?_⟩
      rw [map_cons, map_cons, hregions, (calculate_eq_ok.mp hregion).2]
  obtain ⟨regions, hregions⟩ := headers
  refine ⟨regions, calculateRegions_eq_ok.mpr ⟨by simp, distinct, ?_, hregions⟩⟩
  intro spec hspec
  obtain ⟨region, hregion⟩ := calculable spec hspec
  exact (calculate_eq_ok.mp hregion).1

/-- For nonempty specifications with distinct roles and calculable regions, and
    any route list that fits a slice: the routes are accepted exactly when they
    match all slots with all cells one to one across directions. In every
    accepted set the binary search agrees with a linear search of the routes in
    their given order and finds a route exactly for the existing slots, and a
    validated layout matches exactly the topologies with its header and its set
    of routes, which then have the same route function. -/
theorem acknowledgement_routes_bijection (t : Target) (schemaId : FixedBytes 32)
    {generation : UInt64} {specs : List RegionSpec} {limits : LayoutLimits} (nonzero : generation ≠ 0)
    (nonempty : specs ≠ []) (distinct : (specs.map (·.role)).Nodup)
    (calculable : ∀ spec ∈ specs, ∃ region : RegionLayout t,
      RegionLayout.calculate t schemaId generation spec limits = .ok region)
    (routes : List AcknowledgementRoute) (fits : routes.length < 2 ^ t.bits) :
    ((∃ topology : RegionSetLayout t,
      RegionSetLayout.calculate t schemaId generation specs routes limits = .ok topology) ↔
        PerfectMatching specs routes) ∧
    ∀ topology : RegionSetLayout t,
      RegionSetLayout.calculate t schemaId generation specs routes limits = .ok topology →
      (∀ target slotIndex, topology.acknowledgementRoute target slotIndex =
        routes.find? fun route => decide (route.target = target ∧ route.slotIndex = slotIndex)) ∧
      (∀ (target : RoleId) (slotIndex : UInt32),
        (topology.acknowledgementRoute target slotIndex).isSome ↔
          ∃ spec ∈ specs, spec.role = target ∧ slotIndex < spec.slotCount) ∧
      ∀ (bytes : Bytes) (expected : ValidationExpectations) (layout : ValidatedRegionLayout t)
        (other : RegionSetLayout t),
        ValidatedRegionLayout.validate bytes expected topology = .ok layout →
        (layout.matchesTopology other = true ↔
          (∃ region, other.region layout.role = some region ∧ region.header = layout.header) ∧
            ∀ route, route ∈ topology.routes ↔ route ∈ other.routes) ∧
        (layout.matchesTopology other = true →
          ∀ target slotIndex, topology.acknowledgementRoute target slotIndex =
            other.acknowledgementRoute target slotIndex) := by
  obtain ⟨regions, hregions⟩ := exists_calculateRegions distinct calculable
  have headers := (calculateRegions_eq_ok.mp hregions).2.2.2
  have accepted := validateRoutes_iff_perfectMatching headers distinct fits
  refine ⟨?_, ?_⟩
  · rw [← accepted]
    constructor
    · rintro ⟨topology, h⟩
      obtain ⟨-, -, hsame, hroutes⟩ := RegionSetLayout.calculate_eq_ok.mp h
      cases hregions.symm.trans hsame
      exact ⟨_, hroutes⟩
    · rintro ⟨_, hroutes⟩
      exact RegionSetLayout.exists_calculate nonzero nonempty hregions hroutes
  · intro topology h
    obtain ⟨-, -, hsame, hroutes⟩ := RegionSetLayout.calculate_eq_ok.mp h
    cases hregions.symm.trans hsame
    have hsame : topology.routes = routes := validateRoutes_routes hroutes
    have matching := accepted.mp ⟨_, hroutes⟩
    refine ⟨?_, ?_, ?_⟩
    · intro target slotIndex
      rw [topology.acknowledgementRoute_eq_linearRoute, hsame]
      rfl
    · intro target slotIndex
      have hslot := matching.slots_all (target, slotIndex.toNat)
      rw [mem_places, mem_map] at hslot
      simp only [UInt32.lt_iff_toNat_lt, Option.isSome_iff_exists,
        topology.acknowledgementRoute_eq_some, hsame, ← hslot]
      simp [AcknowledgementRoute.slot, UInt32.toNat_inj]
    · intro bytes expected layout other validated
      obtain ⟨region, -, -, -, -, -, rfl⟩ := validate_eq_ok.mp validated
      refine ⟨matchesTopology_iff rfl, ?_⟩
      intro hmatch
      exact RegionSetLayout.acknowledgementRoute_congr ((matchesTopology_iff rfl).mp hmatch).2

/-- The sample routes, which are not in key order, are accepted and looked up. -/
theorem acknowledgement_routes_bijection_sample :
    PerfectMatching Sample.specs Sample.routes ∧
      ∃ topology : RegionSetLayout .w64,
        RegionSetLayout.calculate .w64 Sample.schemaId 5 Sample.specs Sample.routes
          Sample.limits = .ok topology ∧
        topology.acknowledgementRoute Sample.requests 0 =
          some ⟨Sample.replies, Sample.requests, 0, 1⟩ := by
  have calculable : ∀ spec ∈ Sample.specs, ∃ region : RegionLayout .w64,
      RegionLayout.calculate .w64 Sample.schemaId 5 spec Sample.limits = .ok region := by
    intro spec hspec
    simp only [Sample.specs, mem_cons, not_mem_nil, or_false] at hspec
    rcases hspec with rfl | rfl <;> exact ⟨_, rfl⟩
  have general := acknowledgement_routes_bijection .w64 Sample.schemaId (by decide) (by decide)
    (by decide) calculable Sample.routes (by decide)
  obtain ⟨topology, calculated⟩ : ∃ topology : RegionSetLayout .w64,
      RegionSetLayout.calculate .w64 Sample.schemaId 5 Sample.specs Sample.routes
        Sample.limits = .ok topology := ⟨_, rfl⟩
  refine ⟨general.1.mp ⟨topology, calculated⟩, topology, calculated, ?_⟩
  rw [(general.2 topology calculated).1]
  decide

end NativeIpc.Core
