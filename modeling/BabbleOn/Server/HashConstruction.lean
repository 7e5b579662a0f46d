import Mathlib.Data.List.TakeWhile
import BabbleOn.Server.Connection

namespace Server
open SignedWords

inductive StackArray where
  | pass
  | concatenateMe
  deriving DecidableEq, Repr

inductive ArrayEvent where
  | declare (array : StackArray) (size : Int)
  | write (array : StackArray) (index : Int) (value : Byte)
  | hash (array : StackArray) (len : Int)
  deriving DecidableEq, Repr

-- up to the first NUL of `src`, and the NUL that ends it
def strcpy (dest : StackArray) (src : Str) : List ArrayEvent :=
  (src.takeWhile (· ≠ 0#8) ++ [0#8]).zipIdx.map fun (value, i) => .write dest i value

-- for(int i = start, j = 0; i < stop; i++, j++) dest[i] = src[j]
def copyLoop (dest : StackArray) (start stop : BitVec 32) (src : Str) : List ArrayEvent :=
  (List.range (stop.toInt - start.toInt).toNat).map fun (j : Nat) =>
    .write dest (start.toInt + j) (src.getD j 0#8)

def hashConstruction (challenge : Fin 8 → Byte) (nonceVector password : Str) : List ArrayEvent :=
  let challengeSize : BitVec 32 := 8#32
  let passwordSize : BitVec 32 := BitVec.ofNat 32 password.length
  let nonceSize : BitVec 32 := BitVec.ofNat 32 nonceVector.length
  let sizeConc := challengeSize + passwordSize + nonceSize
  [.declare .pass password.length] ++ strcpy .pass password ++
    [.declare .concatenateMe sizeConc.toInt] ++
    copyLoop .concatenateMe 0#32 challengeSize (List.ofFn challenge) ++
    copyLoop .concatenateMe challengeSize (challengeSize + nonceSize) nonceVector ++
    copyLoop .concatenateMe (challengeSize + nonceSize) sizeConc password ++
    [.hash .concatenateMe sizeConc.toInt]

def passwordCheck (challenge : Fin 8 → Byte) (nonceVector password : Str) : List ArrayEvent :=
  if password = [] then [] else hashConstruction challenge nonceVector password

def WritesOutside (events : List ArrayEvent) (array : StackArray) (index : Int) : Prop :=
  ∃ before value rest, events = before ++ .write array index value :: rest ∧
    ∀ size, .declare array size ∈ before → ¬ (0 ≤ index ∧ index < size)

def Inside (events : List ArrayEvent) : Prop :=
  ∀ array index, ¬ WritesOutside events array index

def Filled (events : List ArrayEvent) : Prop :=
  ∀ before array len rest, events = before ++ .hash array len :: rest →
    ∀ i, 0 ≤ i → i < len → ∃ value, .write array i value ∈ before

theorem mem_strcpy {dest array : StackArray} {src : Str} (hnul : 0#8 ∉ src) {index : Int}
    {value : Byte} :
    .write array index value ∈ strcpy dest src ↔
      array = dest ∧ ∃ i : Nat, index = i ∧ (src ++ [0#8])[i]? = some value := by
  have hall : src.takeWhile (· ≠ 0#8) = src := by
    rw [List.takeWhile_eq_self_iff]
    intro b hb
    exact decide_eq_true fun hzero => hnul (hzero ▸ hb)
  rw [strcpy, hall, List.mem_map]
  constructor
  · rintro ⟨⟨b, i⟩, hmem, heq⟩
    cases heq
    exact ⟨rfl, i, rfl, List.mk_mem_zipIdx_iff_getElem?.mp hmem⟩
  · rintro ⟨rfl, i, rfl, hget⟩
    exact ⟨(value, i), List.mk_mem_zipIdx_iff_getElem?.mpr hget, rfl⟩

theorem mem_copyLoop {dest array : StackArray} {start stop : BitVec 32} {src : Str} {m n : Nat}
    (hstart : start.toInt = m) (hstop : stop.toInt = m + n) (hsrc : src.length = n) {index : Int}
    {value : Byte} :
    .write array index value ∈ copyLoop dest start stop src ↔
      array = dest ∧ ∃ j : Nat, index = (m + j : Nat) ∧ src[j]? = some value := by
  have hcount : (stop.toInt - start.toInt).toNat = src.length := by omega
  rw [copyLoop, hcount, List.mem_map]
  constructor
  · rintro ⟨j, hj, heq⟩
    rw [List.mem_range] at hj
    cases heq
    refine ⟨rfl, j, by omega, ?_⟩
    rw [List.getD_eq_getElem?_getD, List.getElem?_eq_getElem hj, Option.getD_some]
  · rintro ⟨rfl, j, rfl, hget⟩
    refine ⟨j, List.mem_range.mpr (List.getElem?_eq_some_iff.mp hget).1, ?_⟩
    rw [List.getD_eq_getElem?_getD, hget, Option.getD_some, hstart]
    simp

theorem declare_not_mem_strcpy {dest array : StackArray} {size : Int} (src : Str) :
    .declare array size ∉ strcpy dest src := by
  simp [strcpy]

theorem WritesOutside.append {xs : List ArrayEvent} {array : StackArray} {index : Int}
    (h : WritesOutside xs array index) (ys : List ArrayEvent) :
    WritesOutside (xs ++ ys) array index := by
  obtain ⟨before, value, rest, rfl, hdeclared⟩ := h
  exact ⟨before, value, rest ++ ys, by simp, hdeclared⟩

theorem writes_outside_append {xs ys : List ArrayEvent} {array : StackArray} {index : Int}
    (h : WritesOutside (xs ++ ys) array index) :
    WritesOutside xs array index ∨ ∃ value, .write array index value ∈ ys ∧
      ∀ size, .declare array size ∈ xs → ¬ (0 ≤ index ∧ index < size) := by
  obtain ⟨before, value, rest, heq, hdeclared⟩ := h
  rcases List.append_eq_append_iff.mp heq with ⟨middle, rfl, hys⟩ | ⟨middle, hxs, hwrite⟩
  · right
    refine ⟨value, by simp [hys], fun size hsize => hdeclared size ?_⟩
    exact List.mem_append_left _ hsize
  · cases middle with
    | nil =>
      rw [List.append_nil] at hxs
      subst hxs
      exact .inr ⟨value, by simp at hwrite; simp [← hwrite], hdeclared⟩
    | cons event middle =>
      rw [List.cons_append, List.cons.injEq] at hwrite
      rw [← hwrite.1] at hxs
      exact .inl ⟨before, value, middle, hxs, hdeclared⟩

theorem copied_inside {xs : List ArrayEvent} {dest array : StackArray} {index : Int}
    {start stop : BitVec 32} {src : Str} {m n : Nat} (size : Int)
    (hdeclared : .declare dest size ∈ xs) (hstart : start.toInt = m)
    (hstop : stop.toInt = m + n) (hsrc : src.length = n) (hsize : (m + n : Nat) ≤ size)
    (h : WritesOutside (xs ++ copyLoop dest start stop src) array index) :
    WritesOutside xs array index := by
  rcases writes_outside_append h with hxs | ⟨value, hwrite, houtside⟩
  · exact hxs
  · obtain ⟨rfl, j, rfl, hget⟩ := (mem_copyLoop hstart hstop hsrc).mp hwrite
    have hj : j < src.length := (List.getElem?_eq_some_iff.mp hget).1
    exact absurd (by omega) (houtside size hdeclared)

theorem hash_last {xs before rest : List ArrayEvent} {array array' : StackArray} {len len' : Int}
    (hfree : ∀ array len, .hash array len ∉ xs)
    (heq : xs ++ [.hash array len] = before ++ .hash array' len' :: rest) :
    before = xs ∧ array' = array ∧ len' = len := by
  rcases List.append_eq_append_iff.mp heq with ⟨middle, rfl, hlast⟩ | ⟨middle, hxs, hlast⟩
  · rw [List.singleton_eq_append_iff] at hlast
    rcases hlast with ⟨rfl, htail⟩ | ⟨_, hnil⟩
    · cases htail
      exact ⟨List.append_nil xs, rfl, rfl⟩
    · cases hnil
  · cases middle with
    | nil =>
      cases hlast
      exact ⟨by rw [hxs, List.append_nil], rfl, rfl⟩
    | cons event middle =>
      rw [List.cons_append, List.cons.injEq] at hlast
      rw [← hlast.1] at hxs
      exact absurd (hxs ▸ List.mem_append_right _ List.mem_cons_self) (hfree array' len')

variable {challenge : Fin 8 → Byte} {nonceVector password : Str}

theorem terminator_outside (hnul : 0#8 ∉ password) :
    WritesOutside (hashConstruction challenge nonceVector password) .pass password.length := by
  have hwritten : .write .pass password.length 0#8 ∈ strcpy .pass password :=
    (mem_strcpy hnul).mpr ⟨rfl, password.length, rfl, by simp⟩
  obtain ⟨before, rest, hsplit⟩ := List.append_of_mem hwritten
  have hcopy : WritesOutside ([.declare .pass password.length] ++ strcpy .pass password) .pass
      password.length := by
    refine ⟨.declare .pass password.length :: before, 0#8, rest, by rw [hsplit]; rfl, ?_⟩
    rintro size hdeclared ⟨_, hlt⟩
    rcases List.mem_cons.mp hdeclared with heq | hmem
    · cases heq
      exact absurd hlt (Int.lt_irrefl _)
    · have hcopied : .declare .pass size ∈ strcpy .pass password := by
        rw [hsplit]
        exact List.mem_append_left _ hmem
      exact declare_not_mem_strcpy password hcopied
  exact ((((hcopy.append _).append _).append _).append _).append _

theorem hash_construction_iff (challenge : Fin 8 → Byte) (nonceVector : Str)
    (hnul : 0#8 ∉ password) :
    (Inside (passwordCheck challenge nonceVector password) ∧
      Filled (passwordCheck challenge nonceVector password)) ↔ password = [] := by
  unfold passwordCheck
  by_cases hnone : password = []
  · rw [if_pos hnone]
    exact iff_of_true ⟨by simp [Inside, WritesOutside], by simp [Filled]⟩ hnone
  · rw [if_neg hnone]
    exact iff_of_false (fun h => h.1 _ _ (terminator_outside hnul)) hnone

theorem hash_construction_without_password :
    Inside (passwordCheck (fun _ => 0#8) (ascii "12345678") []) ∧
      Filled (passwordCheck (fun _ => 0#8) (ascii "12345678") []) :=
  (hash_construction_iff (fun _ => 0#8) (ascii "12345678") (by simp)).mpr rfl

theorem terminator_past_pass :
    0#8 ∉ ascii "pw" ∧ ¬ Inside (passwordCheck (fun _ => 0#8) (ascii "12345678") (ascii "pw")) := by
  have hnul : 0#8 ∉ ascii "pw" := by decide
  exact ⟨hnul, fun h => h _ _ (terminator_outside hnul)⟩

section Sizes

variable (hsmall : 8 + password.length + nonceVector.length < 2 ^ 31)

include hsmall

theorem nonce_end :
    (8#32 + BitVec.ofNat 32 nonceVector.length).toInt = (8 + nonceVector.length : Nat) := by
  rw [BitVec.toInt_eq_toNat_of_lt] <;> simp <;> omega

theorem sizeConc_toInt :
    (8#32 + BitVec.ofNat 32 password.length + BitVec.ofNat 32 nonceVector.length).toInt =
      (8 + nonceVector.length + password.length : Nat) := by
  rw [BitVec.toInt_eq_toNat_of_lt] <;> simp <;> omega

theorem outside_iff_terminator (hnul : 0#8 ∉ password) {array : StackArray} {index : Int} :
    WritesOutside (hashConstruction challenge nonceVector password) array index ↔
      array = .pass ∧ index = password.length := by
  have hnonce := nonce_end hsmall
  have hsize := sizeConc_toInt hsmall
  constructor
  · intro h
    unfold hashConstruction at h
    rcases writes_outside_append h with h | ⟨_, hwrite, _⟩
    · rw [hsize] at h
      have h := copied_inside (8 + nonceVector.length + password.length : Nat) (by simp) hnonce
        (by rw [hsize]; simp) rfl (by omega) h
      have h := copied_inside (8 + nonceVector.length + password.length : Nat) (m := 8) (by simp)
        rfl (by rw [hnonce]; simp) rfl (by omega) h
      have h := copied_inside (8 + nonceVector.length + password.length : Nat) (m := 0) (n := 8)
        (by simp) rfl rfl (by simp) (by omega) h
      rcases writes_outside_append h with h | ⟨_, hwrite, _⟩
      · rcases writes_outside_append h with ⟨before, _, _, heq, _⟩ | ⟨value, hwrite, houtside⟩
        · simp [List.cons_eq_append_iff] at heq
        · obtain ⟨rfl, i, rfl, hget⟩ := (mem_strcpy hnul).mp hwrite
          have hi := (List.getElem?_eq_some_iff.mp hget).1
          have hpast := houtside password.length (by simp)
          simp only [List.length_append, List.length_singleton] at hi
          exact ⟨rfl, by omega⟩
      · simp at hwrite
    · simp at hwrite
  · rintro ⟨rfl, rfl⟩
    exact terminator_outside hnul

theorem concatenateMe_writes (array : Nat → Byte) {index : Int} {value : Byte} :
    .write .concatenateMe index value ∈ hashConstruction challenge nonceVector password ↔
      ∃ i : Nat, index = i ∧
        (concatenateMe array challenge nonceVector password)[i]? = some value := by
  have hnonce := nonce_end hsmall
  have hsize := sizeConc_toInt hsmall
  have hchallenge : (List.ofFn challenge).length = 8 := List.length_ofFn
  have hcopied : .write .concatenateMe index value ∉ strcpy .pass password := by
    simp [strcpy]
  rw [concatenateMe_eq]
  unfold hashConstruction
  simp only [List.mem_append, List.mem_singleton, reduceCtorEq, hcopied, false_or, or_false]
  rw [mem_copyLoop (m := 0) (n := 8) rfl rfl hchallenge,
    mem_copyLoop (m := 8) rfl (by rw [hnonce]; simp) rfl,
    mem_copyLoop hnonce (by rw [hsize]; simp) rfl]
  simp only [true_and]
  constructor
  · rintro ((⟨j, rfl, hget⟩ | ⟨j, rfl, hget⟩) | ⟨j, rfl, hget⟩)
    · have hj := (List.getElem?_eq_some_iff.mp hget).1
      refine ⟨0 + j, rfl, ?_⟩
      rw [List.append_assoc, List.getElem?_append_left (by omega), Nat.zero_add, hget]
    · have hj := (List.getElem?_eq_some_iff.mp hget).1
      refine ⟨8 + j, rfl, ?_⟩
      rw [List.append_assoc, List.getElem?_append_right (by omega), hchallenge,
        Nat.add_sub_cancel_left, List.getElem?_append_left hj, hget]
    · refine ⟨8 + nonceVector.length + j, rfl, ?_⟩
      have hfront : (List.ofFn challenge ++ nonceVector).length = 8 + nonceVector.length := by
        rw [List.length_append, hchallenge]
      rw [List.getElem?_append_right (by omega), hfront, Nat.add_sub_cancel_left, hget]
  · rintro ⟨i, rfl, hget⟩
    rw [List.append_assoc, List.getElem?_append, List.getElem?_append, hchallenge] at hget
    split at hget
    · exact .inl (.inl ⟨i, by simp, hget⟩)
    · split at hget
      · exact .inl (.inr ⟨i - 8, by omega, hget⟩)
      · exact .inr ⟨i - 8 - nonceVector.length, by omega, hget⟩

theorem concatenateMe_filled : Filled (hashConstruction challenge nonceVector password) := by
  have hsize := sizeConc_toInt hsmall
  intro before array len rest heq i hi hlen
  have hcell : ∀ k : Nat, k < 8 + nonceVector.length + password.length → ∃ value,
      .write .concatenateMe k value ∈ hashConstruction challenge nonceVector password := by
    intro k hk
    have hin : k < (concatenateMe (fun _ => 0#8) challenge nonceVector password).length := by
      rw [concatenateMe_eq, List.length_append, List.length_append, List.length_ofFn]
      exact hk
    exact ⟨_, (concatenateMe_writes hsmall _).mpr ⟨k, rfl, List.getElem?_eq_getElem hin⟩⟩
  unfold hashConstruction at heq
  obtain ⟨rfl, rfl, rfl⟩ := hash_last (by simp [strcpy, copyLoop]) heq
  rw [hsize] at hlen
  obtain ⟨value, hwrite⟩ := hcell i.toNat (by omega)
  rw [Int.toNat_of_nonneg hi] at hwrite
  rcases List.mem_append.mp hwrite with hbefore | hlast
  · exact ⟨value, hbefore⟩
  · simp at hlast

end Sizes

end Server
