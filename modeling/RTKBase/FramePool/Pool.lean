import Mathlib.Logic.Function.Basic
import RTKBase.GnssUart.Crc

namespace rtkbase.frame_pool

open gnss_uart

def FRAME_QUEUE_DEPTH : Nat := 16

abbrev FRAME_POOL_SIZE : Nat := 56

/-- `len` never exceeds the buffer: it is zero at boot and is only set to the
length of a frame. -/
structure pool_frame_t where
  data : Vector UInt8 MAX_RTCM_FRAME
  len : Nat
  len_le : len ≤ MAX_RTCM_FRAME
  ref_count : Int

/-- A `pool_frame_t *` into the static array `s_pool`. -/
abbrev FramePtr := Fin FRAME_POOL_SIZE

abbrev Pool := FramePtr → pool_frame_t

/-- The arguments of `publish_rtcm_frame`: the splitter hands over frames that
fit a slot. -/
structure RtcmFrame where
  data : List UInt8
  len_pos : 0 < data.length
  len_le : data.length ≤ MAX_RTCM_FRAME

def sampleFrame : RtcmFrame := ⟨[0xD3, 0x00, 0x01, 0x00, 0x0A, 0x18, 0x8D], by decide, by decide⟩

/-- What a reader of the slot finds in it. -/
def pool_frame_t.bytes (f : pool_frame_t) : List UInt8 := f.data.toList.take f.len

def pool_init (s_pool : Pool) : Pool :=
  fun i => { s_pool i with ref_count := 0 }

def pool_set_refs (s_pool : Pool) (f : FramePtr) (n : Int) : Pool :=
  Function.update s_pool f { s_pool f with ref_count := n }

def pool_release (s_pool : Pool) (f : FramePtr) : Pool :=
  pool_set_refs s_pool f ((s_pool f).ref_count - 1)

/-- `memcpy(f->data, data, len)`. -/
def poolMemcpy (s_pool : Pool) (f : FramePtr) (data : List UInt8) : Pool :=
  Function.update s_pool f
    { s_pool f with data := Vector.ofFn fun i => data.getD i (s_pool f).data[i] }

/-- `f->len = len`. -/
def poolSetLen (s_pool : Pool) (f : FramePtr) (frame : RtcmFrame) : Pool :=
  Function.update s_pool f
    { s_pool f with len := frame.data.length, len_le := frame.len_le }

/-- The pool in the zeroed static memory. -/
def zeroedPool : Pool := fun _ => ⟨Vector.replicate MAX_RTCM_FRAME 0, 0, Nat.zero_le _, 0⟩

variable (s_pool : Pool) (f g : FramePtr)

@[simp]
theorem pool_set_refs_bytes (n : Int) : (pool_set_refs s_pool f n g).bytes = (s_pool g).bytes := by
  unfold pool_set_refs
  by_cases hfg : g = f
  · subst hfg
    simp [pool_frame_t.bytes]
  · simp [hfg]

theorem pool_set_refs_ref_count (n : Int) :
    (pool_set_refs s_pool f n g).ref_count = if f = g then n else (s_pool g).ref_count := by
  unfold pool_set_refs
  by_cases hfg : f = g
  · subst hfg
    simp
  · simp [hfg, Ne.symm hfg]

@[simp]
theorem pool_release_bytes : (pool_release s_pool f g).bytes = (s_pool g).bytes :=
  pool_set_refs_bytes _ _ _ _

@[simp]
theorem pool_release_data : (pool_release s_pool f g).data = (s_pool g).data := by
  unfold pool_release pool_set_refs
  by_cases hfg : g = f
  · subst hfg
    simp
  · simp [hfg]

theorem pool_release_ref_count :
    (pool_release s_pool f g).ref_count = (s_pool g).ref_count - if f = g then 1 else 0 := by
  unfold pool_release
  rw [pool_set_refs_ref_count]
  by_cases hfg : f = g
  · simp [hfg]
  · simp [hfg]

@[simp]
theorem poolMemcpy_ref_count (data : List UInt8) :
    (poolMemcpy s_pool f data g).ref_count = (s_pool g).ref_count := by
  unfold poolMemcpy
  by_cases hfg : g = f
  · subst hfg
    simp
  · simp [hfg]

theorem poolMemcpy_of_ne {f g : FramePtr} (data : List UInt8) (hne : g ≠ f) :
    poolMemcpy s_pool f data g = s_pool g := Function.update_of_ne hne _ _

theorem poolMemcpy_take (frame : RtcmFrame) :
    (poolMemcpy s_pool f frame.data f).data.toList.take frame.data.length = frame.data := by
  apply List.ext_getElem
  · simp [frame.len_le]
  · intro i _ hi
    simp [poolMemcpy, hi]

@[simp]
theorem poolSetLen_ref_count (frame : RtcmFrame) :
    (poolSetLen s_pool f frame g).ref_count = (s_pool g).ref_count := by
  unfold poolSetLen
  by_cases hfg : g = f
  · subst hfg
    simp
  · simp [hfg]

theorem poolSetLen_of_ne {f g : FramePtr} (frame : RtcmFrame) (hne : g ≠ f) :
    poolSetLen s_pool f frame g = s_pool g := Function.update_of_ne hne _ _

theorem poolSetLen_bytes (frame : RtcmFrame) :
    (poolSetLen s_pool f frame f).bytes = (s_pool f).data.toList.take frame.data.length := by
  simp [poolSetLen, pool_frame_t.bytes]

end rtkbase.frame_pool
