/-
Module: ProxyVPN.App.Favorites
Purpose: When the flags of the proxy list agree with the stored favorites: what
  each call does to the favorites, to the flags and to the pool they are
  restored from, and the calls after which they no longer agree.
Trusted boundary: none
Main exports: MainViewModel.FlagsAgree, MainViewModel.FlagsKept,
  MainViewModel.Stored, MainViewModel.flags_agree_with_favorites
-/
import ProxyVPN.App.MainViewModel

namespace ProxyVPN.MainViewModel

open Kotlin Keyed Transition

/-! ## Favorites and flags -/

/-- `getFavorites` has an entry with the address. -/
def Favored (self : MainViewModel) (address : Text × Int) : Prop :=
  hasKey ProxyItem.address self.getFavorites address = true

instance (self : MainViewModel) (address : Text × Int) :
    Decidable (self.Favored address) :=
  inferInstanceAs (Decidable (_ = _))

/-- The list has an item with the address. -/
def Listed (self : MainViewModel) (address : Text × Int) : Prop :=
  hasKey ProxyItem.address self.proxies address = true

instance (self : MainViewModel) (address : Text × Int) :
    Decidable (self.Listed address) :=
  inferInstanceAs (Decidable (_ = _))

/-- The items of the list that are marked are those among the favorites. -/
def FlagsAgree (self : MainViewModel) : Prop :=
  ∀ item ∈ self.proxies, item.isFavorite = true ↔ self.Favored item.address

/-- A call under which flags and favorites stay in agreement.  A restart finds
no mark in the pool that is out of date; the last favorite with the ip of the
VLESS worker is not removed while the worker is listed; and no item of the list
that is no favorite is added again. -/
def FlagsKept (self : MainViewModel) : Call → Prop
  | .restart => ∀ item ∈ self.proxyPool, item.isFavorite = true →
      self.Favored item.address
  | .toggleFavorite proxy =>
      self.Listed vlessItem.address → self.Favored proxy.address →
        ∃ fav ∈ self.getFavorites,
          fav.ip = vlessIp ∧ fav.address ≠ proxy.address
  | .addCustomProxy ip port =>
      self.Listed (ip, port) → self.Favored (ip, port)
  | .fetchProxies _ _ | .quickCheckProxies _ => True

instance (self : MainViewModel) : ∀ call, Decidable (self.FlagsKept call)
  | .restart => inferInstanceAs (Decidable (∀ item ∈ self.proxyPool, _))
  | .toggleFavorite _ | .addCustomProxy _ _ =>
      inferInstanceAs (Decidable (_ → _))
  | .fetchProxies _ _ | .quickCheckProxies _ => inferInstanceAs (Decidable True)

/-- What every call keeps of the three lists: no address twice, and favorites
are stored with their mark. -/
structure Stored (state : MainViewModel) : Prop where
  favorites : Distinct ProxyItem.address state.favsV3
  marked : ∀ fav ∈ state.favsV3, fav.isFavorite = true
  pool : Distinct ProxyItem.address state.proxyPool
  proxies : Distinct ProxyItem.address state.proxies

theorem favored_iff {self : MainViewModel} {address : Text × Int} :
    self.Favored address ↔
      ∃ fav ∈ self.getFavorites, fav.address = address :=
  hasKey_iff

theorem listed_iff {self : MainViewModel} {address : Text × Int} :
    self.Listed address ↔ ∃ item ∈ self.proxies, item.address = address :=
  hasKey_iff

/-- Lists that have the VLESS worker's ip are read back as they are. -/
theorem getFavorites_of_vless {self : MainViewModel}
    (vless : ∃ fav ∈ self.favsV3, fav.ip = vlessIp) :
    self.getFavorites = self.favsV3 :=
  if_pos (hasKey_iff.mpr vless)

theorem getFavorites_of_no_vless {self : MainViewModel}
    (noVless : ∀ fav ∈ self.favsV3, fav.ip ≠ vlessIp) :
    self.getFavorites = vlessItem :: self.favsV3 := by
  apply if_neg
  rw [hasKey_eq_false_iff.mpr noVless]
  exact Bool.false_ne_true

theorem exists_vless (self : MainViewModel) :
    ∃ fav ∈ self.getFavorites, fav.ip = vlessIp := by
  by_cases vless : ∃ fav ∈ self.favsV3, fav.ip = vlessIp
  · rw [getFavorites_of_vless vless]
    exact vless
  · have noVless : ∀ fav ∈ self.favsV3, fav.ip ≠ vlessIp :=
      fun fav member same => vless ⟨fav, member, same⟩
    rw [getFavorites_of_no_vless noVless]
    exact ⟨vlessItem, List.mem_cons_self, rfl⟩

theorem Stored.getFavorites_distinct {self : MainViewModel}
    (stored : self.Stored) : Distinct ProxyItem.address self.getFavorites := by
  by_cases vless : ∃ fav ∈ self.favsV3, fav.ip = vlessIp
  · rw [getFavorites_of_vless vless]
    exact stored.favorites
  · have noVless : ∀ fav ∈ self.favsV3, fav.ip ≠ vlessIp :=
      fun fav member same => vless ⟨fav, member, same⟩
    rw [getFavorites_of_no_vless noVless]
    apply stored.favorites.cons
    apply hasKey_eq_false_iff.mpr
    intro fav member same
    exact noVless fav member (congrArg Prod.fst same)

theorem Stored.getFavorites_marked {self : MainViewModel}
    (stored : self.Stored) :
    ∀ fav ∈ self.getFavorites, fav.isFavorite = true := by
  intro fav member
  by_cases vless : ∃ fav ∈ self.favsV3, fav.ip = vlessIp
  · rw [getFavorites_of_vless vless] at member
    exact stored.marked fav member
  · have noVless : ∀ fav ∈ self.favsV3, fav.ip ≠ vlessIp :=
      fun fav member same => vless ⟨fav, member, same⟩
    rw [getFavorites_of_no_vless noVless] at member
    rcases List.mem_cons.mp member with rfl | member
    · rfl
    · exact stored.marked fav member

/-- The favorites after one was appended to those read. -/
theorem favored_append {self next : MainViewModel} {added : ProxyItem}
    (favsEq : next.favsV3 = self.getFavorites ++ [added])
    {address : Text × Int} :
    next.Favored address ↔
      self.Favored address ∨ address = added.address := by
  obtain ⟨vless, member, ip⟩ := self.exists_vless
  have read : next.getFavorites = next.favsV3 := by
    apply getFavorites_of_vless
    rw [favsEq]
    exact ⟨vless, List.mem_append_left _ member, ip⟩
  rw [favored_iff, read, favsEq, favored_iff]
  constructor
  · rintro ⟨fav, inside, rfl⟩
    rcases List.mem_append.mp inside with old | new
    · exact .inl ⟨fav, old, rfl⟩
    · rw [List.mem_singleton.mp new]
      exact .inr rfl
  · rintro (⟨fav, inside, same⟩ | rfl)
    · exact ⟨fav, List.mem_append_left _ inside, same⟩
    · exact ⟨added, List.mem_append_right _ List.mem_cons_self, rfl⟩

/-- What is stored after a marked favorite was appended to those read. -/
theorem Stored.append {self : MainViewModel} (stored : self.Stored)
    (added : ProxyItem) (absent : ¬self.Favored added.address)
    (marked : added.isFavorite = true) :
    Distinct ProxyItem.address (self.getFavorites ++ [added]) ∧
      ∀ fav ∈ self.getFavorites ++ [added], fav.isFavorite = true := by
  constructor
  · exact stored.getFavorites_distinct.concat (Bool.not_eq_true _ ▸ absent)
  · intro fav member
    rcases List.mem_append.mp member with old | new
    · exact stored.getFavorites_marked fav old
    · rw [List.mem_singleton.mp new]
      exact marked

/-! ## toggleFavorite -/

/-- Whether the toggled address was a favorite decides between two results. -/
theorem toggleFavorite_added {self : MainViewModel} {proxy : ProxyItem}
    (absent : ¬self.Favored proxy.address) :
    (self.toggleFavorite proxy).favsV3 =
        self.getFavorites ++ [{ proxy with isFavorite := true }] ∧
      (self.toggleFavorite proxy).proxies = self.proxies.map fun item =>
        if item.address = proxy.address then { item with isFavorite := true }
        else item := by
  have index : self.getFavorites.findIdx?
      (fun fav => fav.address = proxy.address) = none := by
    apply List.findIdx?_eq_none_iff.mpr
    intro fav member
    apply decide_eq_false
    intro same
    exact absent (favored_iff.mpr ⟨fav, member, same⟩)
  unfold toggleFavorite
  dsimp only
  rw [index]
  exact ⟨rfl, rfl⟩

theorem toggleFavorite_removed {self : MainViewModel} {proxy : ProxyItem}
    (stored : self.Stored) (present : self.Favored proxy.address) :
    (self.toggleFavorite proxy).favsV3 =
        self.getFavorites.filter (fun fav => fav.address ≠ proxy.address) ∧
      (self.toggleFavorite proxy).proxies = self.proxies.map fun item =>
        if item.address = proxy.address then { item with isFavorite := false }
        else item := by
  have found : (self.getFavorites.findIdx?
      fun fav => fav.address = proxy.address).isSome = true := by
    rw [List.findIdx?_isSome]
    exact present
  obtain ⟨index, indexEq⟩ := Option.isSome_iff_exists.mp found
  unfold toggleFavorite
  dsimp only
  rw [indexEq]
  exact ⟨eraseIdx_eq_filter stored.getFavorites_distinct indexEq, rfl⟩

/-- The favorites after an address was added. -/
theorem favored_toggle_added {self : MainViewModel} {proxy : ProxyItem}
    (absent : ¬self.Favored proxy.address) {address : Text × Int} :
    (self.toggleFavorite proxy).Favored address ↔
      self.Favored address ∨ address = proxy.address :=
  favored_append (toggleFavorite_added absent).1

/-- The favorites after an address was removed: the others, and the VLESS
worker where no other favorite has its ip. -/
theorem favored_toggle_removed {self : MainViewModel} {proxy : ProxyItem}
    (stored : self.Stored) (present : self.Favored proxy.address)
    {address : Text × Int} :
    (self.toggleFavorite proxy).Favored address ↔
      (self.Favored address ∧ address ≠ proxy.address) ∨
      (address = vlessItem.address ∧ ∀ fav ∈ self.getFavorites,
        fav.ip = vlessIp → fav.address = proxy.address) := by
  have favsEq := (toggleFavorite_removed stored present).1
  have left : (∃ fav ∈ (self.toggleFavorite proxy).favsV3,
      fav.address = address) ↔
        self.Favored address ∧ address ≠ proxy.address := by
    rw [favsEq, favored_iff]
    constructor
    · rintro ⟨fav, inside, rfl⟩
      obtain ⟨old, other⟩ := List.mem_filter.mp inside
      exact ⟨⟨fav, old, rfl⟩, of_decide_eq_true other⟩
    · rintro ⟨⟨fav, old, rfl⟩, other⟩
      exact ⟨fav, List.mem_filter.mpr ⟨old, decide_eq_true other⟩, rfl⟩
  by_cases vless : ∃ fav ∈ (self.toggleFavorite proxy).favsV3, fav.ip = vlessIp
  · rw [favored_iff, getFavorites_of_vless vless, left]
    constructor
    · exact .inl
    · rintro (kept | ⟨_, none⟩)
      · exact kept
      · obtain ⟨fav, inside, ip⟩ := vless
        rw [favsEq] at inside
        obtain ⟨old, other⟩ := List.mem_filter.mp inside
        exact absurd (none fav old ip) (of_decide_eq_true other)
  · have noVless : ∀ fav ∈ (self.toggleFavorite proxy).favsV3,
        fav.ip ≠ vlessIp := fun fav member same => vless ⟨fav, member, same⟩
    have none : ∀ fav ∈ self.getFavorites, fav.ip = vlessIp →
        fav.address = proxy.address := by
      intro fav old ip
      by_contra other
      apply noVless fav _ ip
      rw [favsEq]
      exact List.mem_filter.mpr ⟨old, decide_eq_true other⟩
    rw [favored_iff, getFavorites_of_no_vless noVless, ← left]
    constructor
    · rintro ⟨fav, inside, same⟩
      rcases List.mem_cons.mp inside with rfl | inside
      · exact .inr ⟨same.symm, none⟩
      · exact .inl ⟨fav, inside, same⟩
    · rintro (⟨fav, inside, same⟩ | ⟨same, _⟩)
      · exact ⟨fav, List.mem_cons_of_mem _ inside, same⟩
      · exact ⟨vlessItem, List.mem_cons_self, same.symm⟩

theorem Stored.toggleFavorite {self : MainViewModel} (stored : self.Stored)
    (proxy : ProxyItem) : (self.toggleFavorite proxy).Stored := by
  have keeps (flag : Bool) (item : ProxyItem) : (if item.address = proxy.address
      then { item with isFavorite := flag } else item).address =
        item.address := by
    split <;> rfl
  by_cases present : self.Favored proxy.address
  · obtain ⟨favsEq, proxiesEq⟩ := toggleFavorite_removed stored present
    constructor
    · rw [favsEq]
      exact stored.getFavorites_distinct.sublist List.filter_sublist
    · rw [favsEq]
      intro fav member
      exact stored.getFavorites_marked fav (List.mem_of_mem_filter member)
    · exact stored.pool
    · rw [proxiesEq]
      exact stored.proxies.map (keeps false)
  · obtain ⟨favsEq, proxiesEq⟩ := toggleFavorite_added present
    obtain ⟨distinct, marked⟩ :=
      stored.append { proxy with isFavorite := true } present rfl
    constructor
    · rw [favsEq]
      exact distinct
    · rw [favsEq]
      exact marked
    · exact stored.pool
    · rw [proxiesEq]
      exact stored.proxies.map (keeps true)

/-- The flags of a list in which the items of one address were marked. -/
theorem mem_map_flag {list : List ProxyItem} {address : Text × Int}
    {flag : Bool} {item : ProxyItem}
    (member : item ∈ list.map fun item =>
      if item.address = address then { item with isFavorite := flag }
      else item) :
    ∃ old ∈ list, old.address = item.address ∧
      item.isFavorite = if old.address = address then flag
        else old.isFavorite := by
  obtain ⟨old, inside, rfl⟩ := List.mem_map.mp member
  refine ⟨old, inside, ?_⟩
  by_cases here : old.address = address
  · rw [if_pos here, if_pos here]
    exact ⟨rfl, rfl⟩
  · rw [if_neg here, if_neg here]
    exact ⟨rfl, rfl⟩

theorem FlagsAgree.toggleFavorite_iff {self : MainViewModel}
    (stored : self.Stored) (agree : self.FlagsAgree) (proxy : ProxyItem) :
    (self.toggleFavorite proxy).FlagsAgree ↔
      self.FlagsKept (.toggleFavorite proxy) := by
  by_cases present : self.Favored proxy.address
  · have proxiesEq := (toggleFavorite_removed stored present).2
    constructor
    · intro after listed _
      by_contra none
      have last : ∀ fav ∈ self.getFavorites, fav.ip = vlessIp →
          fav.address = proxy.address := by
        intro fav member ip
        by_contra other
        exact none ⟨fav, member, ip, other⟩
      obtain ⟨item, inside, isVless⟩ := listed_iff.mp listed
      -- the worker comes back among the favorites, but not its mark
      have back : (self.toggleFavorite proxy).Favored vlessItem.address :=
        (favored_toggle_removed stored present).mpr (.inr ⟨rfl, last⟩)
      by_cases toggled : item.address = proxy.address
      · have unmarked : { item with isFavorite := false } ∈
            (self.toggleFavorite proxy).proxies := by
          rw [proxiesEq]
          exact List.mem_map.mpr ⟨item, inside, if_pos toggled⟩
        have marked := (after _ unmarked).mpr
          (show Favored _ item.address from isVless ▸ back)
        cases marked
      · have same : item ∈ (self.toggleFavorite proxy).proxies := by
          rw [proxiesEq]
          exact List.mem_map.mpr ⟨item, inside, if_neg toggled⟩
        have marked := (after item same).mpr (isVless ▸ back)
        obtain ⟨fav, member, address⟩ :=
          favored_iff.mp ((agree item inside).mp marked)
        have ip : fav.ip = vlessIp :=
          congrArg Prod.fst (address.trans isVless)
        exact toggled (address ▸ last fav member ip)
    · intro kept item member
      rw [proxiesEq] at member
      obtain ⟨old, inside, address, flag⟩ := mem_map_flag member
      rw [favored_toggle_removed stored present, flag, ← address]
      have notBack : ¬(old.address = vlessItem.address ∧
          ∀ fav ∈ self.getFavorites, fav.ip = vlessIp →
            fav.address = proxy.address) := by
        rintro ⟨isVless, last⟩
        obtain ⟨fav, favMember, ip, other⟩ :=
          kept (listed_iff.mpr ⟨old, inside, isVless⟩) present
        exact other (last fav favMember ip)
      by_cases toggled : old.address = proxy.address
      · rw [if_pos toggled]
        constructor
        · exact nofun
        · rintro (⟨_, other⟩ | back)
          · exact absurd toggled other
          · exact absurd back notBack
      · rw [if_neg toggled, agree old inside]
        constructor
        · exact fun favored => .inl ⟨favored, toggled⟩
        · rintro (⟨favored, _⟩ | back)
          · exact favored
          · exact absurd back notBack
  · constructor
    · intro _ _ favored
      exact absurd favored present
    · intro _ item member
      rw [(toggleFavorite_added present).2] at member
      obtain ⟨old, inside, address, flag⟩ := mem_map_flag member
      rw [favored_toggle_added present, flag, ← address]
      by_cases toggled : old.address = proxy.address
      · rw [if_pos toggled]
        exact ⟨fun _ => .inr toggled, fun _ => rfl⟩
      · rw [if_neg toggled, agree old inside]
        constructor
        · exact .inl
        · rintro (favored | same)
          · exact favored
          · exact absurd same toggled

/-! ## addCustomProxy -/

/-- The favorites after an address was added by hand. -/
theorem favored_addCustomProxy {self : MainViewModel} {ip : Text} {port : Int}
    {address : Text × Int} :
    (self.addCustomProxy ip port).Favored address ↔
      self.Favored address ∨ address = (ip, port) := by
  by_cases present : self.Favored (ip, port)
  · have favsEq : (self.addCustomProxy ip port).favsV3 = self.favsV3 :=
      if_pos present
    have read : (self.addCustomProxy ip port).getFavorites =
        self.getFavorites := by
      unfold getFavorites
      rw [favsEq]
    rw [Favored, read]
    constructor
    · exact .inl
    · rintro (favored | rfl)
      · exact favored
      · exact present
  · have favsEq : (self.addCustomProxy ip port).favsV3 =
        self.getFavorites ++ [customProxy ip port] := if_neg present
    exact favored_append favsEq

theorem Stored.addCustomProxy {self : MainViewModel} (stored : self.Stored)
    (ip : Text) (port : Int) : (self.addCustomProxy ip port).Stored := by
  have proxies : Distinct ProxyItem.address
      (self.addCustomProxy ip port).proxies := by
    by_cases listed : self.Listed (ip, port)
    · have proxiesEq : (self.addCustomProxy ip port).proxies = self.proxies :=
        if_pos listed
      rw [proxiesEq]
      exact stored.proxies
    · have proxiesEq : (self.addCustomProxy ip port).proxies =
          customProxy ip port :: self.proxies := if_neg listed
      rw [proxiesEq]
      apply stored.proxies.cons
      exact Bool.not_eq_true _ ▸ listed
  by_cases present : self.Favored (ip, port)
  · have favsEq : (self.addCustomProxy ip port).favsV3 = self.favsV3 :=
      if_pos present
    exact ⟨favsEq ▸ stored.favorites, favsEq ▸ stored.marked, stored.pool,
      proxies⟩
  · have favsEq : (self.addCustomProxy ip port).favsV3 =
        self.getFavorites ++ [customProxy ip port] := if_neg present
    obtain ⟨distinct, marked⟩ :=
      stored.append (customProxy ip port) present rfl
    exact ⟨favsEq ▸ distinct, favsEq ▸ marked, stored.pool, proxies⟩

theorem FlagsAgree.addCustomProxy_iff {self : MainViewModel}
    (agree : self.FlagsAgree) (ip : Text) (port : Int) :
    (self.addCustomProxy ip port).FlagsAgree ↔
      self.FlagsKept (.addCustomProxy ip port) := by
  by_cases listed : self.Listed (ip, port)
  · have proxiesEq : (self.addCustomProxy ip port).proxies = self.proxies :=
      if_pos listed
    constructor
    · intro after _
      obtain ⟨item, inside, same⟩ := listed_iff.mp listed
      have marked := (after item (proxiesEq ▸ inside)).mpr
        (favored_addCustomProxy.mpr (.inr same))
      exact same ▸ (agree item inside).mp marked
    · intro kept item member
      rw [proxiesEq] at member
      rw [favored_addCustomProxy, agree item member]
      constructor
      · exact .inl
      · rintro (favored | same)
        · exact favored
        · exact same ▸ kept listed
  · have proxiesEq : (self.addCustomProxy ip port).proxies =
        customProxy ip port :: self.proxies := if_neg listed
    constructor
    · intro _ inside
      exact absurd inside listed
    · intro _ item member
      rw [proxiesEq] at member
      rw [favored_addCustomProxy]
      rcases List.mem_cons.mp member with rfl | inside
      · exact ⟨fun _ => .inr rfl, fun _ => rfl⟩
      · rw [agree item inside]
        constructor
        · exact .inl
        · rintro (favored | same)
          · exact favored
          · exact absurd (listed_iff.mpr ⟨item, inside, same⟩) listed

/-! ## fetchProxies and quickCheckProxies -/

/-- The text of an address tells it apart. -/
theorem key_inj {left right : ProxyItem} (same : left.key = right.key) :
    left.address = right.address := by
  obtain ⟨ip, port⟩ := colon_inj (colon_notMem_toString _)
    (colon_notMem_toString _) same
  exact Prod.ext ip (toString_inj port)

/-- What was fetched is marked if and only if it is a favorite. -/
theorem Stored.marked_fetchResult {self : MainViewModel} (stored : self.Stored)
    {infos : List ProxyInfo} {item : ProxyItem}
    (member : item ∈ self.fetchResult infos) :
    item.isFavorite = true ↔ self.Favored item.address := by
  rcases List.mem_append.mp member with kept | scraped
  · have inside := List.mem_of_mem_filter kept
    exact ⟨fun _ => favored_iff.mpr ⟨item, inside, rfl⟩,
      fun _ => stored.getFavorites_marked item inside⟩
  · obtain ⟨info, _, rfl⟩ := List.mem_map.mp scraped
    have flag : (ProxyItem.ofInfo (self.getFavorites.map ProxyItem.key)
        info).isFavorite = true ↔
          info.hostPort ∈ self.getFavorites.map ProxyItem.key :=
      decide_eq_true_iff
    rw [flag, favored_iff, List.mem_map]
    constructor
    · rintro ⟨fav, inside, same⟩
      refine ⟨fav, inside, key_inj ?_⟩
      exact same
    · rintro ⟨fav, inside, same⟩
      obtain ⟨ip, port⟩ := Prod.mk.inj same
      refine ⟨fav, inside, ?_⟩
      rw [ProxyItem.key, ip, port]
      rfl

theorem fetchProxies_cases (self : MainViewModel) (forceRefresh : Bool)
    (infos : Option (List ProxyInfo)) :
    self.fetchProxies forceRefresh infos = self ∨
      ∃ found, self.fetchProxies forceRefresh infos =
        self.fetchFinish (self.fetchResult found) := by
  cases infos with
  | none => exact .inl rfl
  | some found =>
      by_cases fetches : self.fetches forceRefresh = true
      · exact .inr ⟨found, if_pos fetches⟩
      · exact .inl (if_neg fetches)

theorem Stored.fetchFinish {self : MainViewModel} (stored : self.Stored)
    (result : List ProxyItem) : (self.fetchFinish result).Stored := by
  have limited : Distinct ProxyItem.address
      ((addMissing ProxyItem.address self.proxies result).take 50) :=
    stored.proxies.addMissing.sublist (List.take_sublist _ _)
  exact ⟨stored.favorites, stored.marked, limited, limited⟩

theorem FlagsAgree.fetchFinish {self : MainViewModel} (agree : self.FlagsAgree)
    (stored : self.Stored) (infos : List ProxyInfo) :
    (self.fetchFinish (self.fetchResult infos)).FlagsAgree := by
  intro item member
  have inside := List.mem_of_mem_take member
  rcases mem_of_mem_addMissing inside with old | fetched
  · exact agree item old
  · exact stored.marked_fetchResult fetched

theorem Stored.quickCheckFinish {self : MainViewModel} (stored : self.Stored)
    {current : List ProxyItem} (distinct : Distinct ProxyItem.address current)
    (results : List Bool) : (self.quickCheckFinish current results).Stored := by
  have final : Distinct ProxyItem.address (finalProxies current results) :=
    distinct.sublist List.filter_sublist
  exact ⟨stored.favorites, stored.marked, final, final⟩

theorem FlagsAgree.quickCheckFinish {self : MainViewModel}
    (agree : self.FlagsAgree) (results : List Bool) :
    (self.quickCheckFinish self.proxies results).FlagsAgree := by
  intro item member
  exact agree item (List.mem_of_mem_filter member)

/-! ## The init block -/

theorem mergeFavorite_new {merged : List ProxyItem} {fav : ProxyItem}
    (absent : hasKey ProxyItem.address merged fav.address = false) :
    mergeFavorite merged fav = merged ++ [fav] := by
  have index : merged.findIdx? (fun item => item.address = fav.address) =
      none := by
    apply List.findIdx?_eq_none_iff.mpr
    intro item member
    exact decide_eq_false (hasKey_eq_false_iff.mp absent item member)
  unfold mergeFavorite
  rw [index]

theorem mergeFavorite_known {merged : List ProxyItem} {fav : ProxyItem}
    (distinct : Distinct ProxyItem.address merged)
    (present : hasKey ProxyItem.address merged fav.address = true) :
    mergeFavorite merged fav = merged.map fun item =>
      if item.address = fav.address then { item with isFavorite := true }
      else item := by
  have found : (merged.findIdx?
      fun item => item.address = fav.address).isSome = true := by
    rw [List.findIdx?_isSome]
    exact present
  obtain ⟨index, indexEq⟩ := Option.isSome_iff_exists.mp found
  unfold mergeFavorite
  rw [indexEq]
  exact modify_eq_map distinct indexEq

theorem distinct_mergeFavorite {merged : List ProxyItem} (fav : ProxyItem)
    (distinct : Distinct ProxyItem.address merged) :
    Distinct ProxyItem.address (mergeFavorite merged fav) := by
  cases present : hasKey ProxyItem.address merged fav.address with
  | false =>
      rw [mergeFavorite_new present]
      exact distinct.concat present
  | true =>
      rw [mergeFavorite_known distinct present]
      apply distinct.map
      intro item
      split <;> rfl

/-- Merging a favorite leaves the other addresses alone. -/
theorem mem_mergeFavorite_other {merged : List ProxyItem}
    {fav item : ProxyItem} (distinct : Distinct ProxyItem.address merged)
    (other : fav.address ≠ item.address) :
    item ∈ mergeFavorite merged fav ↔ item ∈ merged := by
  cases present : hasKey ProxyItem.address merged fav.address with
  | false =>
      rw [mergeFavorite_new present, List.mem_append, List.mem_singleton]
      constructor
      · rintro (old | rfl)
        · exact old
        · exact absurd rfl other
      · exact .inl
  | true =>
      rw [mergeFavorite_known distinct present, List.mem_map]
      constructor
      · rintro ⟨old, inside, rfl⟩
        by_cases same : old.address = fav.address
        · rw [if_pos same] at other
          exact absurd same.symm other
        · rw [if_neg same]
          exact inside
      · exact fun inside => ⟨item, inside, if_neg other.symm⟩

/-- Merging a favorite marks its address. -/
theorem marked_of_mem_mergeFavorite {merged : List ProxyItem}
    {fav item : ProxyItem} (distinct : Distinct ProxyItem.address merged)
    (marked : fav.isFavorite = true) (same : fav.address = item.address)
    (member : item ∈ mergeFavorite merged fav) : item.isFavorite = true := by
  cases present : hasKey ProxyItem.address merged fav.address with
  | false =>
      rw [mergeFavorite_new present] at member
      rcases List.mem_append.mp member with old | new
      · exact absurd same.symm (hasKey_eq_false_iff.mp present item old)
      · rw [List.mem_singleton.mp new]
        exact marked
  | true =>
      rw [mergeFavorite_known distinct present] at member
      obtain ⟨old, _, address, flag⟩ := mem_map_flag member
      rw [flag, if_pos (address.trans same.symm)]

/-- After all favorites were merged, their addresses are marked, and the other
items are those of the pool. -/
theorem foldl_mergeFavorite {favs : List ProxyItem} :
    ∀ {merged : List ProxyItem}, Distinct ProxyItem.address merged →
      (∀ fav ∈ favs, fav.isFavorite = true) →
      Distinct ProxyItem.address (favs.foldl mergeFavorite merged) ∧
      ∀ item, ((∃ fav ∈ favs, fav.address = item.address) →
          item ∈ favs.foldl mergeFavorite merged → item.isFavorite = true) ∧
        ((∀ fav ∈ favs, fav.address ≠ item.address) →
          (item ∈ favs.foldl mergeFavorite merged ↔ item ∈ merged)) := by
  induction favs with
  | nil =>
      intro merged distinct _
      refine ⟨distinct, fun item => ⟨?_, fun _ => Iff.rfl⟩⟩
      rintro ⟨_, member, _⟩
      cases member
  | cons fav rest inductionHypothesis =>
      intro merged distinct marked
      have favMarked := marked fav List.mem_cons_self
      obtain ⟨mergedDistinct, items⟩ :=
        inductionHypothesis (distinct_mergeFavorite fav distinct)
          fun other member => marked other (List.mem_cons_of_mem _ member)
      refine ⟨mergedDistinct, fun item => ⟨?_, ?_⟩⟩
      · intro isFav member
        by_cases later : ∃ other ∈ rest, other.address = item.address
        · exact (items item).1 later member
        · have notLater : ∀ other ∈ rest, other.address ≠ item.address :=
            fun other inside same => later ⟨other, inside, same⟩
          obtain ⟨other, inside, same⟩ := isFav
          rcases List.mem_cons.mp inside with rfl | inside
          · exact marked_of_mem_mergeFavorite distinct favMarked same
              (((items item).2 notLater).mp member)
          · exact absurd same (notLater other inside)
      · intro notFav
        have notLater : ∀ other ∈ rest, other.address ≠ item.address :=
          fun other inside => notFav other (List.mem_cons_of_mem _ inside)
        rw [List.foldl_cons, (items item).2 notLater]
        exact mem_mergeFavorite_other distinct (notFav fav List.mem_cons_self)

theorem Stored.restart {self : MainViewModel} (stored : self.Stored) :
    self.restart.Stored :=
  ⟨stored.favorites, stored.marked, stored.pool,
    (foldl_mergeFavorite stored.pool stored.getFavorites_marked).1⟩

theorem Stored.restart_flagsAgree_iff {self : MainViewModel}
    (stored : self.Stored) :
    self.restart.FlagsAgree ↔ self.FlagsKept .restart := by
  have items :=
    (foldl_mergeFavorite stored.pool stored.getFavorites_marked).2
  constructor
  · intro after item pooled marked
    by_contra notFav
    have others : ∀ fav ∈ self.getFavorites, fav.address ≠ item.address :=
      fun fav inside same => notFav (favored_iff.mpr ⟨fav, inside, same⟩)
    have member := ((items item).2 others).mpr pooled
    exact notFav ((after item member).mp marked)
  · intro kept item member
    change item.isFavorite = true ↔ self.Favored item.address
    by_cases isFav : ∃ fav ∈ self.getFavorites, fav.address = item.address
    · exact ⟨fun _ => favored_iff.mpr isFav,
        fun _ => (items item).1 isFav member⟩
    · have others : ∀ fav ∈ self.getFavorites, fav.address ≠ item.address :=
        fun fav inside same => isFav ⟨fav, inside, same⟩
      have pooled := ((items item).2 others).mp member
      constructor
      · exact kept item pooled
      · exact fun favored => absurd (favored_iff.mp favored) isFav

/-! ## Whole runs -/

theorem Stored.exec {self next : MainViewModel} {call : Call}
    (stored : self.Stored) (taken : self.exec call = some next) :
    next.Stored := by
  cases call with
  | restart =>
      cases taken
      exact stored.restart
  | toggleFavorite proxy =>
      cases taken
      exact stored.toggleFavorite proxy
  | addCustomProxy ip port =>
      cases taken
      exact stored.addCustomProxy ip port
  | fetchProxies forceRefresh infos =>
      cases taken
      rcases self.fetchProxies_cases forceRefresh infos with same | ⟨found, eq⟩
      · rw [same]
        exact stored
      · rw [eq]
        exact stored.fetchFinish _
  | quickCheckProxies results =>
      change self.quickCheckProxies results = some next at taken
      unfold quickCheckProxies at taken
      split at taken
      · cases taken
        exact stored
      · obtain ⟨_, ⟨⟩⟩ := Option.ite_none_right_eq_some.mp taken
        exact stored.quickCheckFinish stored.proxies results

/-- One call keeps the flags in agreement if and only if it is of the kinds
that do. -/
theorem FlagsAgree.exec_iff {self next : MainViewModel} {call : Call}
    (agree : self.FlagsAgree) (stored : self.Stored)
    (taken : self.exec call = some next) :
    next.FlagsAgree ↔ self.FlagsKept call := by
  cases call with
  | restart =>
      cases taken
      exact stored.restart_flagsAgree_iff
  | toggleFavorite proxy =>
      cases taken
      exact agree.toggleFavorite_iff stored proxy
  | addCustomProxy ip port =>
      cases taken
      exact agree.addCustomProxy_iff ip port
  | fetchProxies forceRefresh infos =>
      cases taken
      refine iff_of_true ?_ trivial
      rcases self.fetchProxies_cases forceRefresh infos with same | ⟨found, eq⟩
      · rw [same]
        exact agree
      · rw [eq]
        exact agree.fetchFinish stored found
  | quickCheckProxies results =>
      refine iff_of_true ?_ trivial
      change self.quickCheckProxies results = some next at taken
      unfold quickCheckProxies at taken
      split at taken
      · cases taken
        exact agree
      · obtain ⟨_, ⟨⟩⟩ := Option.ite_none_right_eq_some.mp taken
        exact agree.quickCheckFinish results

theorem stored_invariant : Invariant system Stored where
  initial := by
    rintro state rfl
    constructor
    · exact List.nodup_nil
    · exact nofun
    · exact List.nodup_nil
    · exact List.nodup_nil
  preserved := fun _ _ _ stored taken => stored.exec taken

theorem flagsAgree_invariant :
    Invariant (system.restrict FlagsKept)
      (fun state => state.Stored ∧ state.FlagsAgree) where
  initial := by
    rintro state rfl
    exact ⟨stored_invariant.initial _ rfl, nofun⟩
  preserved := by
    rintro state call next ⟨stored, agree⟩ ⟨kept, taken⟩
    exact ⟨stored.exec taken, (agree.exec_iff stored taken).mpr kept⟩

/-- In every run of calls that keep the flags, restarts included, the items of
the list that are marked are those among the favorites; and after such a run
any other call breaks that. -/
theorem flags_agree_with_favorites (state : MainViewModel)
    (reached : (system.restrict FlagsKept).Reachable state) :
    state.FlagsAgree ∧
    ∀ call next, state.exec call = some next → ¬state.FlagsKept call →
      ¬next.FlagsAgree := by
  obtain ⟨stored, agree⟩ := flagsAgree_invariant.reachable reached
  refine ⟨agree, ?_⟩
  intro call next taken broken after
  exact broken ((agree.exec_iff stored taken).mp after)

/-- A favorite that was added and removed again, with a restart between. -/
theorem flags_agree_after_restart :
    ∃ state, (system.restrict FlagsKept).Reachable state ∧
      state.proxies.map (fun item => (item.address, item.isFavorite)) =
        [((vlessIp, 443), true), (("10.0.0.1".toList, 1080), false)] ∧
      state.FlagsAgree := by
  let custom := customProxy "10.0.0.1".toList 1080
  let calls : List Call :=
    [.restart, .fetchProxies true (some [{ host := custom.ip, port := 1080 }]),
      .toggleFavorite custom, .restart, .toggleFavorite custom]
  have replayed : (calls.foldlM (fun (state : MainViewModel) call =>
      if state.FlagsKept call then exec state call else none) initial).map
        (fun (state : MainViewModel) =>
          state.proxies.map fun item => (item.address, item.isFavorite)) =
        some [((vlessIp, 443), true), (("10.0.0.1".toList, 1080), false)] := by
    decide +kernel
  obtain ⟨state, taken, seen⟩ := System.replay_restrict _ replayed
  have reached : (system.restrict FlagsKept).Reachable state :=
    ⟨initial, calls, rfl, taken⟩
  exact ⟨state, reached, seen, (flags_agree_with_favorites state reached).1⟩

/-- The pool keeps the mark of a favorite that was removed, and a restart brings
it back. -/
theorem restart_marks_removed_favorite :
    ¬∀ state, system.Reachable state → state.FlagsAgree := by
  intro always
  let custom := customProxy "10.0.0.1".toList 1080
  let calls : List Call :=
    [.restart, .addCustomProxy custom.ip 1080, .fetchProxies true (some []),
      .toggleFavorite custom, .restart]
  have replayed : (calls.foldlM exec initial).map (fun state =>
      (decide (∃ item ∈ state.proxies, item.address = custom.address ∧
        item.isFavorite = true), decide (state.Favored custom.address))) =
        some (true, false) := by
    decide +kernel
  obtain ⟨state, taken, seen⟩ := System.replay _ replayed
  obtain ⟨listed, favored⟩ := Prod.mk.inj seen
  obtain ⟨item, member, address, marked⟩ := of_decide_eq_true listed
  have agree := always state ⟨initial, calls, rfl, taken⟩
  have isFav := (agree item member).mp marked
  rw [address] at isFav
  exact of_decide_eq_false favored isFav

end ProxyVPN.MainViewModel
