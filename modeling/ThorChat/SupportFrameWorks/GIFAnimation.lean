import ThorChat.Library.Timeline

/-!
# GIF Animation

`animatedImageWithSource` and what it calls. A GIF shows every image for a delay of its own, a
`UIImage` shows all its images equally long, so each image is repeated as often as the greatest
common divisor of the delays fits into its delay. `none` models a trap.
-/

namespace ThorChat.SupportFrameWorks

open ThorChat.Library

/-- The doubles, as far as the code computes with delays in seconds. -/
structure Doubles (δ : Type) where
  /-- `x == 0`. -/
  isZero : δ → Bool
  /-- `0.1`. -/
  tenth : δ
  /-- `x < 0.1`. -/
  lessThanTenth : δ → Bool
  /-- `Int(x * 1000.0)`, `none` where the conversion traps. -/
  milliseconds : δ → Option Int
  milliseconds_tenth : milliseconds tenth = some 100
  /-- Multiplying by 1000 and dropping the fraction keep the order, and `nan` traps. -/
  hundred_le : ∀ x n, lessThanTenth x = false → milliseconds x = some n → 100 ≤ n

/-- Numbers of hundredths of a second. -/
def Doubles.centiseconds : Doubles Nat where
  isZero x := x == 0
  tenth := 10
  lessThanTenth x := x < 10
  milliseconds x := some (x * 10)
  milliseconds_tenth := rfl
  hundred_le x n hx hn := by
    have hn := Option.some.inj hn
    have hx := of_decide_eq_false hx
    omega

/-- What a `CGImageSource` says about the image at an index. -/
structure GIFFrame (ι : Type) (δ : Type) where
  /-- `CGImageSourceCreateImageAtIndex`. -/
  image : Option ι
  /-- `kCGImagePropertyGIFUnclampedDelayTime`, `none` when the dictionary lacks it. -/
  unclampedDelayTime : Option δ
  /-- `kCGImagePropertyGIFDelayTime`. -/
  delayTime : Option δ

/-- `UIImage.animatedImage(with:duration:)`, the duration in milliseconds. -/
structure AnimatedImage (ι : Type) where
  frames : List ι
  duration : Int
  deriving DecidableEq

namespace UIImage

/-! ## `gcdForPair` and `gcdForArray` -/

/-- `Int.min`. -/
def intMin : Int := -2 ^ 63

/-- `%`, which traps on a divisor 0 and when the quotient overflows. -/
def remainder (a b : Int) : Option Int :=
  if b = 0 ∨ (a = intMin ∧ b = -1) then none else some (a.tmod b)

/-- `/`, which traps where `%` does. -/
def quotient (a b : Int) : Option Int :=
  if b = 0 ∨ (a = intMin ∧ b = -1) then none else some (a.tdiv b)

/-- `+`, which traps on overflow. -/
def sum (a b : Int) : Option Int :=
  if intMin ≤ a + b ∧ a + b < 2 ^ 63 then some (a + b) else none

theorem natAbs_lt_of_remainder {a b rest : Int} (h : remainder a b = some rest) :
    rest.natAbs < b.natAbs := by
  unfold remainder at h
  split at h
  case isTrue => cases h
  case isFalse hb =>
    obtain rfl := Option.some.inj h
    have hpos : 0 < b.natAbs := Int.natAbs_pos.mpr fun h0 => hb (.inl h0)
    rw [Int.natAbs_tmod]
    exact Nat.mod_lt _ hpos

/-- The `while true` of `gcdForPair`. -/
def gcdLoop (a b : Int) : Option Int :=
  match _h : remainder a b with
  | none => none
  | some rest => if rest = 0 then some b else gcdLoop b rest
termination_by b.natAbs
decreasing_by exact natAbs_lt_of_remainder _h

def gcdForPair (a b : Option Int) : Option Int :=
  match a, b with
  | none, none => some 0
  | none, some b => some b
  | some a, none => some a
  | some a, some b => if a < b then gcdLoop b a else gcdLoop a b

/-- The loop of `gcdForArray`. -/
def gcdFrom (gcd : Int) : List Int → Option Int
  | [] => some gcd
  | val :: array => do
    let gcd ← gcdForPair (some val) (some gcd)
    gcdFrom gcd array

def gcdForArray : List Int → Option Int
  | [] => some 1
  | first :: array => gcdFrom first (first :: array)

/-- Whatever the signs, what the loop returns is the greatest common divisor up to its sign. -/
theorem natAbs_gcdLoop {a b g : Int} (h : gcdLoop a b = some g) :
    g.natAbs = Nat.gcd a.natAbs b.natAbs := by
  fun_induction gcdLoop a b with
  | case1 a b htrap => cases h
  | case2 a b hrest =>
    obtain rfl := Option.some.inj h
    unfold remainder at hrest
    split at hrest
    case isTrue => cases hrest
    case isFalse =>
      have hdvd : b ∣ a := Int.dvd_of_tmod_eq_zero (Option.some.inj hrest)
      rw [Nat.gcd_eq_right (Int.natAbs_dvd_natAbs.mpr hdvd)]
  | case3 a b rest hrest hne ih =>
    rw [ih h]
    unfold remainder at hrest
    split at hrest
    case isTrue => cases hrest
    case isFalse =>
      -- One step of the algorithm keeps the greatest common divisor
      obtain rfl := Option.some.inj hrest
      rw [Int.natAbs_tmod, Nat.gcd_comm, ← Nat.gcd_rec, Nat.gcd_comm]

/-- With positive numbers there is no trap, and the result is positive too. -/
theorem gcdLoop_pos {a b : Int} (ha : 0 < a) (hb : 0 < b) :
    gcdLoop a b = some ((Nat.gcd a.natAbs b.natAbs : Nat) : Int) := by
  have hreturns : ∃ g, gcdLoop a b = some g ∧ 0 < g := by
    fun_induction gcdLoop a b with
    | case1 a b htrap =>
      unfold remainder at htrap
      split at htrap
      case isTrue hzero => omega
      case isFalse => cases htrap
    | case2 a b hrest => exact ⟨b, rfl, hb⟩
    | case3 a b rest hrest hne ih =>
      unfold remainder at hrest
      split at hrest
      case isTrue => cases hrest
      case isFalse =>
        -- A remainder of positive numbers is not negative, and here it is not 0 either
        have hnonneg : 0 ≤ rest := Option.some.inj hrest ▸ Int.tmod_nonneg b ha.le
        exact ih hb (lt_of_le_of_ne hnonneg (Ne.symm hne))
  obtain ⟨g, hg, hpos⟩ := hreturns
  rw [hg, ← natAbs_gcdLoop hg, Int.natAbs_of_nonneg hpos.le]

theorem gcdForPair_pos {a b : Int} (ha : 0 < a) (hb : 0 < b) :
    gcdForPair (some a) (some b) = some ((Nat.gcd a.natAbs b.natAbs : Nat) : Int) := by
  simp only [gcdForPair]
  by_cases hlt : a < b
  · rw [if_pos hlt, gcdLoop_pos hb ha, Nat.gcd_comm]
  · rw [if_neg hlt, gcdLoop_pos ha hb]

/-- The loop over positive numbers returns a number that divides each, and that every common
divisor divides. -/
theorem gcdFrom_pos {gcd : Nat} {array : List Int} (hgcd : 0 < gcd) (h : ∀ val ∈ array, 0 < val) :
    ∃ g : Nat, gcdFrom gcd array = some (g : Int) ∧ 0 < g ∧
      ∀ d : Nat, d ∣ g ↔ d ∣ gcd ∧ ∀ val ∈ array, d ∣ val.natAbs := by
  induction array generalizing gcd with
  | nil => exact ⟨gcd, rfl, hgcd, fun d => by simp⟩
  | cons val array ih =>
    obtain ⟨hval, hrest⟩ := List.forall_mem_cons.mp h
    have hpair := gcdForPair_pos hval (Int.natCast_pos.mpr hgcd)
    rw [Int.natAbs_natCast] at hpair
    obtain ⟨g, hg, hpos, hdvd⟩ := ih (Nat.gcd_pos_of_pos_right val.natAbs hgcd) hrest
    refine ⟨g, ?_, hpos, fun d => ?_⟩
    · rw [gcdFrom, hpair]
      exact hg
    · rw [hdvd, Nat.dvd_gcd_iff, List.forall_mem_cons]
      tauto

theorem gcdForArray_pos {array : List Int} (h : ∀ val ∈ array, 0 < val) :
    ∃ g : Nat, gcdForArray array = some (g : Int) ∧ 0 < g ∧
      (array ≠ [] → ∀ d : Nat, d ∣ g ↔ ∀ val ∈ array, d ∣ val.natAbs) := by
  cases array with
  | nil => exact ⟨1, rfl, one_pos, fun hne => absurd rfl hne⟩
  | cons first array =>
    have hfirst : 0 < first := h first List.mem_cons_self
    obtain ⟨g, hg, hpos, hdvd⟩ := gcdFrom_pos (Int.natAbs_pos.mpr hfirst.ne') h
    rw [Int.natAbs_of_nonneg hfirst.le] at hg
    refine ⟨g, hg, hpos, fun _ d => ?_⟩
    rw [hdvd]
    exact ⟨fun hall => hall.2, fun hall => ⟨hall first List.mem_cons_self, hall⟩⟩

/-! ## `animatedImageWithSource` -/

variable {ι : Type} {δ : Type} (D : Doubles δ)

/-- Of the image at an index of the source. -/
def delayForImageAtIndex (frame : GIFFrame ι δ) : Option δ := do
  let delayObject ← frame.unclampedDelayTime
  let delay ← (if D.isZero delayObject then frame.delayTime else some delayObject)
  some (if D.lessThanTenth delay then D.tenth else delay)

/-- The first loop: the images that exist and the delays. -/
def imagesAndDelays : List (GIFFrame ι δ) → Option (List ι × List Int)
  | [] => some ([], [])
  | frame :: source => do
    let delaySeconds ← delayForImageAtIndex D frame
    let delay ← D.milliseconds delaySeconds
    let (images, delays) ← imagesAndDelays source
    some (frame.image.toList ++ images, delay :: delays)

/-- The closure that computes the duration. -/
def sumOf (total : Int) : List Int → Option Int
  | [] => some total
  | val :: delays => do
    let total ← sum total val
    sumOf total delays

/-- The last loop, over the indices given. -/
def framesFor (images : List ι) (delays : List Int) (gcd : Int) : List Nat → Option (List ι)
  | [] => some []
  | i :: indices => do
    let frame ← images[i]?
    let delay ← delays[i]?
    let frameCount ← quotient delay gcd
    -- A range whose upper bound is below its lower bound traps
    if frameCount < 0 then none
    else do
      let frames ← framesFor images delays gcd indices
      some (List.replicate frameCount.toNat frame ++ frames)

def animatedImageWithSource (source : List (GIFFrame ι δ)) : Option (AnimatedImage ι) := do
  let (images, delays) ← imagesAndDelays D source
  let duration ← sumOf 0 delays
  let gcd ← gcdForArray delays
  let frames ← framesFor images delays gcd (List.range source.length)
  some ⟨frames, duration⟩

/-! ## The timeline of the GIF -/

/-- How long the image of a frame is to be shown, in milliseconds. -/
def delayOf (frame : GIFFrame ι δ) : Option Int :=
  (delayForImageAtIndex D frame).bind D.milliseconds

/-- Every frame has an image and a delay. -/
def Complete (source : List (GIFFrame ι δ)) : Prop :=
  ∀ frame ∈ source, frame.image.isSome = true ∧ (delayOf D frame).isSome = true

/-- A frame as an entry of the timeline. -/
def entryOf (frame : GIFFrame ι δ) : Option (ι × Nat) :=
  frame.image.bind fun image => (delayOf D frame).map fun delay => (image, delay.toNat)

/-- The images of the GIF, each for its own delay. -/
def timeline (source : List (GIFFrame ι δ)) : List (ι × Nat) :=
  source.filterMap (entryOf D)

variable {D} {source : List (GIFFrame ι δ)}

theorem hundred_le_delayOf {frame : GIFFrame ι δ} {n : Int} (h : delayOf D frame = some n) :
    100 ≤ n := by
  obtain ⟨delay, hdelay, hn⟩ := Option.bind_eq_some_iff.mp h
  obtain ⟨object, -, hclamped⟩ := Option.bind_eq_some_iff.mp hdelay
  obtain ⟨raw, -, hraw⟩ := Option.bind_eq_some_iff.mp hclamped
  obtain rfl := Option.some.inj hraw
  by_cases hless : D.lessThanTenth raw = true
  · rw [if_pos hless, D.milliseconds_tenth] at hn
    exact (Option.some.inj hn).le
  · rw [if_neg hless] at hn
    exact D.hundred_le raw n (Bool.eq_false_iff.mpr hless) hn

theorem imagesAndDelays_cons (frame : GIFFrame ι δ) :
    imagesAndDelays D (frame :: source) = (delayOf D frame).bind fun delay =>
      (imagesAndDelays D source).map fun found =>
        (frame.image.toList ++ found.1, delay :: found.2) := by
  rw [imagesAndDelays, delayOf]
  cases delayForImageAtIndex D frame with
  | none => rfl
  | some seconds =>
    simp only [Option.bind_eq_bind, Option.bind_some]
    cases D.milliseconds seconds with
    | none => rfl
    | some delay => cases imagesAndDelays D source <;> rfl

theorem complete_cons {frame : GIFFrame ι δ} : Complete D (frame :: source) ↔
    (∃ image delay, frame.image = some image ∧ delayOf D frame = some delay) ∧
      Complete D source := by
  rw [Complete, List.forall_mem_cons, Option.isSome_iff_exists, Option.isSome_iff_exists,
    exists_and_exists_comm]
  rfl

theorem timeline_cons {frame : GIFFrame ι δ} {image : ι} {delay : Int}
    (himage : frame.image = some image) (hdelay : delayOf D frame = some delay) :
    timeline D (frame :: source) = (image, delay.toNat) :: timeline D source := by
  have hentry : entryOf D frame = some (image, delay.toNat) := by
    rw [entryOf, himage, hdelay]
    rfl
  exact List.filterMap_cons_some hentry

/-- What the first loop finds in a complete source is its timeline. -/
theorem imagesAndDelays_complete (h : Complete D source) :
    imagesAndDelays D source =
      some ((timeline D source).map (·.1),
        (timeline D source).map fun entry => (entry.2 : Int)) := by
  induction source with
  | nil => rfl
  | cons frame source ih =>
    obtain ⟨⟨image, delay, himage, hdelay⟩, hrest⟩ := complete_cons.mp h
    have hnonneg : 0 ≤ delay := (hundred_le_delayOf hdelay).trans' (by decide)
    rw [imagesAndDelays_cons, hdelay, ih hrest, timeline_cons himage hdelay, himage,
      List.map_cons, List.map_cons, Int.toNat_of_nonneg hnonneg]
    rfl

theorem length_timeline (h : Complete D source) :
    (timeline D source).length = source.length := by
  induction source with
  | nil => rfl
  | cons frame source ih =>
    obtain ⟨⟨image, delay, himage, hdelay⟩, hrest⟩ := complete_cons.mp h
    rw [timeline_cons himage hdelay, List.length_cons, List.length_cons, ih hrest]

/-- Conversely the first loop runs through only when every delay is there, and it finds as many
images as frames only when every image is there. -/
theorem complete_of_imagesAndDelays {images : List ι} {delays : List Int}
    (h : imagesAndDelays D source = some (images, delays)) :
    images.length ≤ source.length ∧ (images.length = source.length → Complete D source) := by
  induction source generalizing images delays with
  | nil =>
    obtain ⟨rfl, rfl⟩ := Prod.mk.inj (Option.some.inj h)
    exact ⟨le_rfl, fun _ frame hframe => absurd hframe List.not_mem_nil⟩
  | cons frame source ih =>
    rw [imagesAndDelays_cons] at h
    obtain ⟨delay, hdelay, hfound⟩ := Option.bind_eq_some_iff.mp h
    obtain ⟨⟨found, others⟩, hrest, heq⟩ := Option.map_eq_some_iff.mp hfound
    obtain ⟨rfl, rfl⟩ := Prod.mk.inj heq
    obtain ⟨hle, hcomplete⟩ := ih hrest
    cases himage : frame.image with
    | none =>
      simp only [Option.toList_none, List.nil_append, List.length_cons]
      exact ⟨by omega, fun hlength => by omega⟩
    | some image =>
      simp only [Option.toList_some, List.singleton_append, List.length_cons]
      refine ⟨by omega, fun hlength => ?_⟩
      exact complete_cons.mpr ⟨⟨image, delay, himage, hdelay⟩, hcomplete (by omega)⟩

/-! ## The duration and the frames -/

/-- Adding up numbers that are not negative traps exactly when the result is too large. -/
theorem sumOf_nonneg {total : Int} {delays : List Int} (hlo : 0 ≤ total) (hhi : total < 2 ^ 63)
    (h : ∀ val ∈ delays, 0 ≤ val) :
    sumOf total delays =
      if total + delays.sum < 2 ^ 63 then some (total + delays.sum) else none := by
  induction delays generalizing total with
  | nil => rw [sumOf, List.sum_nil, Int.add_zero, if_pos hhi]
  | cons val delays ih =>
    obtain ⟨hval, hrest⟩ := List.forall_mem_cons.mp h
    have hsum : 0 ≤ delays.sum := List.sum_nonneg hrest
    rw [sumOf, List.sum_cons, ← Int.add_assoc, sum]
    by_cases hover : total + val < 2 ^ 63
    · have hlower : intMin ≤ total + val := by
        unfold intMin
        omega
      rw [if_pos ⟨hlower, hover⟩]
      exact ih (by omega) hover hrest
    · rw [if_neg fun h => hover h.2, if_neg (by omega)]
      rfl

theorem quotient_natCast {g : Nat} (hg : 0 < g) (n : Nat) :
    quotient (n : Int) (g : Int) = some ((n / g : Nat) : Int) := by
  have hguard : ¬((g : Int) = 0 ∨ ((n : Int) = intMin ∧ (g : Int) = -1)) := by omega
  rw [quotient, if_neg hguard, Int.ofNat_tdiv]

/-- From an index on, the last loop repeats each image as often as `g` fits into its delay. -/
theorem framesFor_range' {entries : List (ι × Nat)} {g : Nat} (hg : 0 < g) (n k : Nat)
    (hlength : k + n = entries.length) :
    framesFor (entries.map (·.1)) (entries.map fun entry => (entry.2 : Int)) g (List.range' k n) =
      some (Timeline.sampled g (entries.drop k)) := by
  induction n generalizing k with
  | zero =>
    rw [List.drop_eq_nil_of_le (by omega)]
    rfl
  | succ n ih =>
    have hk : k < entries.length := by omega
    rw [List.range'_succ, framesFor, List.getElem?_map, List.getElem?_map,
      List.getElem?_eq_getElem hk, ih (k + 1) (by omega), List.drop_eq_getElem_cons hk,
      Timeline.sampled_cons]
    simp only [Option.map_some, Option.bind_eq_bind, Option.bind_some, quotient_natCast hg]
    rw [if_neg (Int.not_lt.mpr (Int.natCast_nonneg _)), Int.toNat_natCast]

theorem framesFor_range {entries : List (ι × Nat)} {g : Nat} (hg : 0 < g) :
    framesFor (entries.map (·.1)) (entries.map fun entry => (entry.2 : Int)) g
        (List.range entries.length) =
      some (Timeline.sampled g entries) := by
  rw [List.range_eq_range', framesFor_range' hg entries.length 0 (Nat.zero_add _),
    List.drop_zero]

/-- An index without an image traps. -/
theorem lt_of_framesFor {images : List ι} {delays : List Int} {gcd : Int} {indices : List Nat}
    {frames : List ι} (h : framesFor images delays gcd indices = some frames) :
    ∀ i ∈ indices, i < images.length := by
  induction indices generalizing frames with
  | nil => exact fun i hi => absurd hi List.not_mem_nil
  | cons first indices ih =>
    obtain ⟨frame, hframe, hafter⟩ := Option.bind_eq_some_iff.mp h
    obtain ⟨delay, -, hafter⟩ := Option.bind_eq_some_iff.mp hafter
    obtain ⟨frameCount, -, hafter⟩ := Option.bind_eq_some_iff.mp hafter
    split at hafter
    case isTrue => cases hafter
    case isFalse =>
      obtain ⟨others, hothers, -⟩ := Option.bind_eq_some_iff.mp hafter
      refine List.forall_mem_cons.mpr ⟨?_, ih hothers⟩
      obtain ⟨hlt, -⟩ := List.getElem?_eq_some_iff.mp hframe
      exact hlt

/-- Added up as integers the delays of a timeline are its total time. -/
theorem sum_delays (entries : List (ι × Nat)) :
    (entries.map fun entry => (entry.2 : Int)).sum = (Timeline.totalTime entries : Nat) := by
  induction entries with
  | nil => rfl
  | cons entry entries ih =>
    rw [List.map_cons, List.sum_cons, ih, Timeline.totalTime_cons, Int.natCast_add]

theorem hundred_le_time : ∀ entry ∈ timeline D source, 100 ≤ entry.2 := by
  intro entry hentry
  obtain ⟨frame, hframe, hentry⟩ := List.mem_filterMap.mp hentry
  obtain ⟨image, -, hentry⟩ := Option.bind_eq_some_iff.mp hentry
  obtain ⟨delay, hdelay, rfl⟩ := Option.map_eq_some_iff.mp hentry
  have hle := hundred_le_delayOf hdelay
  simp only
  omega

/-- The whole function on a complete source, with a common divisor that every common divisor
divides. -/
theorem animatedImageWithSource_complete (h : Complete D source)
    (hshort : Timeline.totalTime (timeline D source) < 2 ^ 63) :
    ∃ g, 0 < g ∧
      (timeline D source ≠ [] → ∀ d, d ∣ g ↔ ∀ entry ∈ timeline D source, d ∣ entry.2) ∧
      animatedImageWithSource D source =
        some ⟨Timeline.sampled g (timeline D source), Timeline.totalTime (timeline D source)⟩ := by
  have hpos : ∀ val ∈ (timeline D source).map fun entry => (entry.2 : Int), 0 < val := by
    intro val hval
    obtain ⟨entry, hentry, rfl⟩ := List.mem_map.mp hval
    have hle := hundred_le_time entry hentry
    omega
  obtain ⟨g, hgcd, hg, hdvd⟩ := gcdForArray_pos hpos
  have hsum := sumOf_nonneg le_rfl (by decide) fun val hval => (hpos val hval).le
  rw [Int.zero_add, sum_delays, if_pos (by exact_mod_cast hshort)] at hsum
  refine ⟨g, hg, fun hne d => ?_, ?_⟩
  · rw [hdvd (by simpa using hne), List.forall_mem_map]
    rfl
  · rw [animatedImageWithSource, imagesAndDelays_complete h, ← length_timeline h]
    simp only [Option.bind_eq_bind, Option.bind_some, hsum, hgcd, framesFor_range hg]

end UIImage

/-- What `UIImage` shows: each of its frames equally long, for this many milliseconds. -/
def AnimatedImage.frameTime {ι : Type} (animation : AnimatedImage ι) : Nat :=
  animation.duration.toNat / animation.frames.length

/-- The frame on show at a moment. -/
def AnimatedImage.shownAt {ι : Type} (animation : AnimatedImage ι) (t : Nat) : Option ι :=
  animation.frames[t / animation.frameTime]?

namespace UIImage

/-! ## What is shown -/

variable {ι δ : Type} {D : Doubles δ} {source : List (GIFFrame ι δ)}

theorem complete_of_animated {animation : AnimatedImage ι}
    (h : animatedImageWithSource D source = some animation) :
    Complete D source ∧ Timeline.totalTime (timeline D source) < 2 ^ 63 := by
  obtain ⟨⟨images, delays⟩, hfound, h⟩ := Option.bind_eq_some_iff.mp h
  obtain ⟨duration, hduration, h⟩ := Option.bind_eq_some_iff.mp h
  obtain ⟨gcd, -, h⟩ := Option.bind_eq_some_iff.mp h
  obtain ⟨frames, hframes, -⟩ := Option.bind_eq_some_iff.mp h
  -- As many images as frames, for the last loop asks for each
  obtain ⟨hle, hcomplete⟩ := complete_of_imagesAndDelays hfound
  have hge : source.length ≤ images.length := by
    by_contra hlt
    have hmem : images.length ∈ List.range source.length := List.mem_range.mpr (by omega)
    exact lt_irrefl _ (lt_of_framesFor hframes images.length hmem)
  have hall : Complete D source := hcomplete (le_antisymm hle hge)
  refine ⟨hall, ?_⟩
  rw [imagesAndDelays_complete hall] at hfound
  obtain ⟨-, rfl⟩ := Prod.mk.inj (Option.some.inj hfound)
  have hnonneg : ∀ val ∈ (timeline D source).map fun entry => (entry.2 : Int), 0 ≤ val :=
    List.forall_mem_map.mpr fun entry _ => Int.natCast_nonneg entry.2
  rw [sumOf_nonneg le_rfl (by decide) hnonneg, Int.zero_add, sum_delays] at hduration
  split at hduration
  case isTrue hshort => exact_mod_cast hshort
  case isFalse => cases hduration

/-- An animated image comes out exactly when every frame has an image and a delay and the
duration in milliseconds is an `Int`. -/
theorem animated_iff : (animatedImageWithSource D source).isSome = true ↔
    Complete D source ∧ Timeline.totalTime (timeline D source) < 2 ^ 63 := by
  constructor
  · intro h
    obtain ⟨animation, h⟩ := Option.isSome_iff_exists.mp h
    exact complete_of_animated h
  · rintro ⟨hcomplete, hshort⟩
    obtain ⟨g, -, -, heq⟩ := animatedImageWithSource_complete hcomplete hshort
    rw [heq]
    rfl

end UIImage

end ThorChat.SupportFrameWorks
