import WncFirmware.Foundation.BytePrograms
import WncFirmware.FlashLayout

/-!
# The driver of the external flash

`spi_flash_gd.c`: `rt_device_write` becomes page programs of the chip.  A page
program carries the address in three bytes, ANDs its bytes in and stays inside
its page of 256 bytes.
-/

namespace WncFirmware

open WncFirmware.Foundation

def pageSize : Nat := 256

def commandAddress (address : Nat) : Bytes :=
  [byteOf address 2, byteOf address 1, byteOf address 0]

def flashAddress (address : Nat) : Nat :=
  let bytes := commandAddress address
  ((byteAt bytes 0).toNat * 256 + (byteAt bytes 1).toNat) * 256 +
    (byteAt bytes 2).toNat

structure PageWrite where
  pageAddr : Nat
  buffer : Bytes
  deriving DecidableEq, Repr

def PageWrite.apply (memory : Memory) (write : PageWrite) : Memory :=
  pageProgram pageSize memory (flashAddress write.pageAddr) write.buffer

def applyPageWrites (memory : Memory) (writes : List PageWrite) : Memory :=
  writes.foldl PageWrite.apply memory

/-- The `while` loop over the whole pages: the calls, and the position behind them. -/
def writeWholePages : Nat → Nat → Bytes → List PageWrite × Nat × Bytes
  | 0, pos, ptr => ([], pos, ptr)
  | pageNum + 1, pos, ptr =>
      let later := writeWholePages pageNum (pos + pageSize) (ptr.drop pageSize)
      (⟨pos, ptr.take pageSize⟩ :: later.1, later.2)

/-- The part of `gd25qxx_flash_write` behind the first page. -/
def writeNextPages (pos : Nat) (ptr : Bytes) : List PageWrite :=
  let size := ptr.length
  let pageNum := UInt8.ofNat (size / pageSize)
  let singleBytes := UInt8.ofNat (size % pageSize)
  let pages := writeWholePages pageNum.toNat pos ptr
  pages.1 ++ if 0 < singleBytes then
    [⟨pages.2.1, pages.2.2.take singleBytes.toNat⟩] else []

def gd25qxxFlashWrite (pos : Nat) (buffer : Bytes) : List PageWrite × Nat :=
  let offsetInPage := UInt8.ofNat (pos % pageSize)
  let freeSizeInFirstPage := UInt8.ofNat (pageSize - offsetInPage.toNat)
  let free := freeSizeInFirstPage.toNat
  if buffer.length < free then ([⟨pos, buffer⟩], buffer.length)
  else
    (⟨pos, buffer.take free⟩ :: writeNextPages (pos + free) (buffer.drop free),
      buffer.length - free)

/-! ## Addresses -/

theorem flashAddress_eq (address : Nat) :
    flashAddress address = address % 2 ^ 24 := by
  simp only [flashAddress, commandAddress, byteAt_cons_zero, byteAt_cons_succ,
    toNat_byteOf]
  omega

theorem flashAddress_mod_pageSize (address : Nat) :
    flashAddress address % pageSize = address % pageSize := by
  rw [flashAddress_eq, pageSize]
  omega

def bytePlace (pos index : Nat) : Nat := flashAddress (pos + index)

theorem bytePlace_add (pos count index : Nat) :
    bytePlace pos (count + index) = bytePlace (pos + count) index := by
  rw [bytePlace, bytePlace, Nat.add_assoc]

theorem bytePlace_inj {pos first second : Nat} (hfirst : first < 2 ^ 24)
    (hsecond : second < 2 ^ 24)
    (h : bytePlace pos first = bytePlace pos second) : first = second := by
  simp only [bytePlace, flashAddress_eq] at h
  omega

/-! ## The page writes cover the buffer -/

theorem PageWrite.apply_inside {pos : Nat} {buffer : Bytes} (memory : Memory)
    (h : pos % pageSize + buffer.length ≤ pageSize) :
    PageWrite.apply memory ⟨pos, buffer⟩ =
      programAt memory (bytePlace pos) buffer := by
  rw [PageWrite.apply, pageProgram_inside]
  · apply programAt_congr
    intro index hindex
    dsimp only at hindex ⊢
    rw [bytePlace, flashAddress_eq, flashAddress_eq]
    rw [pageSize] at h
    omega
  · rw [flashAddress_mod_pageSize]
    exact h

theorem programAt_bytePlace_append (memory : Memory) (pos : Nat)
    (first second : Bytes) :
    programAt memory (bytePlace pos) (first ++ second) =
      programAt (programAt memory (bytePlace pos) first)
        (bytePlace (pos + first.length)) second := by
  have hplaces : (fun index => bytePlace pos (first.length + index)) =
      bytePlace (pos + first.length) := by
    funext index
    exact bytePlace_add pos first.length index
  rw [programAt_append, hplaces]

theorem writeWholePages_eq {pageNum pos : Nat} {ptr : Bytes} (memory : Memory)
    (haligned : pos % pageSize = 0) (h : pageNum * pageSize ≤ ptr.length) :
    (writeWholePages pageNum pos ptr).2 =
        (pos + pageNum * pageSize, ptr.drop (pageNum * pageSize)) ∧
      applyPageWrites memory (writeWholePages pageNum pos ptr).1 =
        programAt memory (bytePlace pos) (ptr.take (pageNum * pageSize)) := by
  induction pageNum generalizing pos ptr memory with
  | zero =>
      rw [Nat.zero_mul]
      exact ⟨rfl, rfl⟩
  | succ pageNum ih =>
      rw [Nat.add_mul, Nat.one_mul] at h
      have hnext : (pos + pageSize) % pageSize = 0 := by
        rw [Nat.add_mod_right]
        exact haligned
      have hrest : pageNum * pageSize ≤ (ptr.drop pageSize).length := by
        rw [List.length_drop]
        omega
      have hlength : (ptr.take pageSize).length = pageSize := by
        rw [List.length_take]
        omega
      obtain ⟨hend, hpages⟩ := ih
        (PageWrite.apply memory ⟨pos, ptr.take pageSize⟩) hnext hrest
      have hfirst : pos % pageSize + (ptr.take pageSize).length ≤ pageSize := by
        omega
      constructor
      · rw [writeWholePages]
        dsimp only
        rw [hend, List.drop_drop, Nat.add_mul, Nat.one_mul]
        congr 1 <;> [skip; congr 1] <;> omega
      · rw [writeWholePages]
        dsimp only
        rw [applyPageWrites, List.foldl_cons]
        rw [applyPageWrites] at hpages
        rw [hpages, PageWrite.apply_inside memory hfirst, Nat.add_mul,
          Nat.one_mul, Nat.add_comm (pageNum * pageSize), List.take_add,
          programAt_bytePlace_append, hlength]

theorem applyPageWrites_append (memory : Memory)
    (first second : List PageWrite) :
    applyPageWrites memory (first ++ second) =
      applyPageWrites (applyPageWrites memory first) second :=
  List.foldl_append

theorem writeNextPages_eq {pos : Nat} {ptr : Bytes} (memory : Memory)
    (haligned : pos % pageSize = 0) (h : ptr.length ≤ 65535) :
    applyPageWrites memory (writeNextPages pos ptr) =
      programAt memory (bytePlace pos) ptr := by
  unfold writeNextPages
  extract_lets size pageNum singleBytes pages
  have hdivmod := Nat.div_add_mod' ptr.length pageSize
  -- 65535 bytes have at most 255 whole pages, so that nothing is cut off
  have hnum : pageNum.toNat = ptr.length / pageSize := by
    simp only [pageNum, size, pageSize, UInt8.toNat_ofNat']
    omega
  have hsingle : singleBytes.toNat = ptr.length % pageSize := by
    simp only [singleBytes, size, pageSize, UInt8.toNat_ofNat']
    omega
  have hfits : pageNum.toNat * pageSize ≤ ptr.length := by
    rw [hnum]
    omega
  obtain ⟨hend, hwhole⟩ := @writeWholePages_eq _ _ _ memory haligned hfits
  have hlast : (ptr.drop (pageNum.toNat * pageSize)).length =
      singleBytes.toNat := by
    rw [List.length_drop, hnum, hsingle]
    omega
  have htake : (ptr.take (pageNum.toNat * pageSize)).length =
      pageNum.toNat * pageSize := by
    rw [List.length_take, Nat.min_eq_left hfits]
  conv_rhs => rw [← List.take_append_drop (pageNum.toNat * pageSize) ptr]
  rw [applyPageWrites_append, hwhole, programAt_bytePlace_append, htake]
  by_cases hpos : 0 < singleBytes
  · rw [if_pos hpos]
    simp only [pages, hend]
    rw [List.take_of_length_le hlast.le]
    apply PageWrite.apply_inside
    rw [hlast, hsingle, Nat.add_mul_mod_self_right, haligned, Nat.zero_add]
    exact (Nat.mod_lt _ (by decide)).le
  · have hnone : singleBytes.toNat = 0 := by
      simpa [UInt8.lt_iff_toNat_lt] using hpos
    rw [if_neg hpos, List.eq_nil_of_length_eq_zero (hlast.trans hnone)]
    rfl

theorem gd25qxxFlashWrite_eq (memory : Memory) (pos : Nat) {buffer : Bytes}
    (h : buffer.length ≤ 65535) :
    applyPageWrites memory (gd25qxxFlashWrite pos buffer).1 =
      programAt memory (bytePlace pos) buffer := by
  have hmod := Nat.mod_lt pos (show 0 < 256 by decide)
  unfold gd25qxxFlashWrite
  extract_lets offsetInPage freeSizeInFirstPage free
  -- at the start of a page `free` is 0 and the first call writes nothing
  have hfree : free = (256 - pos % 256) % 256 := by
    simp [free, freeSizeInFirstPage, offsetInPage, pageSize]
  split
  case isTrue hshort =>
    apply PageWrite.apply_inside
    rw [pageSize]
    omega
  case isFalse hlong =>
    have htake : (buffer.take free).length = free := by
      rw [List.length_take]
      omega
    have haligned : (pos + free) % pageSize = 0 := by
      rw [pageSize]
      omega
    have hfirst : pos % pageSize + (buffer.take free).length ≤ pageSize := by
      rw [htake, pageSize]
      omega
    have hrest : (buffer.drop free).length ≤ 65535 := by
      rw [List.length_drop]
      omega
    have hnext := writeNextPages_eq
      (PageWrite.apply memory ⟨pos, buffer.take free⟩) haligned hrest
    conv_rhs => rw [← List.take_append_drop free buffer]
    rw [applyPageWrites, List.foldl_cons]
    rw [applyPageWrites] at hnext
    rw [hnext, PageWrite.apply_inside memory hfirst,
      programAt_bytePlace_append, htake]

/-! ## What a write does -/

structure ProgramsBuffer (memory : Memory) (pos : Nat) (buffer : Bytes)
    (written : Memory) : Prop where
  each : ∀ index < buffer.length,
    written (flashAddress (pos + index)) =
      memory (flashAddress (pos + index)) &&& byteAt buffer index
  others : ∀ address,
    (∀ index < buffer.length, address ≠ flashAddress (pos + index)) →
      written address = memory address

theorem flash_write_programs_buffer (memory : Memory) (pos : Nat)
    (buffer : Bytes) (h : buffer.length ≤ 65535) :
    ProgramsBuffer memory pos buffer
        (applyPageWrites memory (gd25qxxFlashWrite pos buffer).1) ∧
      (pos + buffer.length ≤ 2 ^ 24 →
        applyPageWrites memory (gd25qxxFlashWrite pos buffer).1 =
          (deviceWrite pos buffer).apply memory) := by
  rw [gd25qxxFlashWrite_eq memory pos h]
  refine ⟨⟨?_, ?_⟩, ?_⟩
  · intro index hindex
    apply programAt_place memory hindex
    intro other hother hne hsame
    exact hne (bytePlace_inj (by omega) (by omega) hsame).symm
  · intro address houtside
    exact programAt_of_ne memory houtside
  · intro hend
    rw [deviceWrite, apply_program]
    apply programAt_congr
    intro index hindex
    rw [bytePlace, flashAddress_eq, Nat.mod_eq_of_lt (by omega)]

/-- Two bytes at the end of a page and the start of the next one. -/
theorem two_pages_programmed :
    ProgramsBuffer (fun _ => 0xff) 255 [1, 2]
      (applyPageWrites (fun _ => 0xff) (gd25qxxFlashWrite 255 [1, 2]).1) :=
  (flash_write_programs_buffer (fun _ => 0xff) 255 [1, 2] (by decide)).1

end WncFirmware
