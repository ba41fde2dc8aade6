import Keysas.Admin.UsbSign
import Keysas.Firewall.SignatureReaders

/-!
# What a signature of a device binds

`sign_device` signs the fields of an identity joined by slashes. keysas-io and the firewall join the
fields that the kernel reports in the same way and verify the signatures for the result. No field is
escaped.

`isSigned_signDevice_iff` and `validateUsbSignature_signDevice_iff` say that the two programs accept
the text of a signature exactly for the keys of the authority and for the joined text that was
signed. That text does not determine the fields: `accepts_shifted` is a signature of one stick that
both programs accept for another. `slashFree_of_data_eq` counts the slashes of a joined text, and
`identity_of_accepts` concludes that an identity without slashes is accepted for itself only.
-/

set_option autoImplicit false
set_option relaxedAutoImplicit false

namespace Keysas.Admin

open Crypto Firewall Io Keys Reports RustStd Wire

variable {schemes : Schemes}

/-! ### Slashes of the joined text -/

/-- The number of slashes in the fields of an identity. -/
def slashes (identity : DeviceIdentity) : ℕ :=
  identity.vendor.toList.count '/' + identity.model.toList.count '/' +
    identity.revision.toList.count '/' + identity.serial.toList.count '/'

theorem slashes_eq_zero_iff {identity : DeviceIdentity} :
    slashes identity = 0 ↔ identity.SlashFree := by
  constructor
  · intro hzero
    rw [slashes] at hzero
    constructor <;> (apply List.count_eq_zero.mp; omega)
  · intro hfree
    rw [slashes, List.count_eq_zero.mpr hfree.vendor, List.count_eq_zero.mpr hfree.model,
      List.count_eq_zero.mpr hfree.revision, List.count_eq_zero.mpr hfree.serial]

/-- A joined text has the slashes of the fields and of the direction, and four more. -/
theorem count_data (identity : DeviceIdentity) (direction : String) :
    (identity.data direction).toList.count '/' =
      slashes identity + 4 + direction.toList.count '/' := by
  have hslash : "/".toList.count '/' = 1 := rfl
  simp only [DeviceIdentity.data, String.toList_append, List.count_append, hslash, slashes]
  omega

/-- An identity with the joined text of one without slashes has none. -/
theorem slashFree_of_data_eq {first second : DeviceIdentity} {direction : String}
    (hdata : first.data direction = second.data direction) (hfirst : first.SlashFree) :
    second.SlashFree := by
  have hcount := congrArg (fun text ↦ text.toList.count '/') hdata
  simp only [count_data, slashes_eq_zero_iff.mpr hfirst] at hcount
  apply slashes_eq_zero_iff.mp
  omega

/-- Two identities with one joined text are the same when one of them has no slashes. -/
theorem identity_eq_of_data_eq {first second : DeviceIdentity} {direction : String}
    (hdata : first.data direction = second.data direction)
    (hfree : first.SlashFree ∨ second.SlashFree) : first = second := by
  rcases hfree with hfirst | hsecond
  · exact ((DeviceIdentity.data_eq_iff hfirst (slashFree_of_data_eq hdata hfirst)).mp hdata).1
  · exact ((DeviceIdentity.data_eq_iff (slashFree_of_data_eq hdata.symm hsecond) hsecond).mp
      hdata).1

/-! ### What the two programs accept -/

/-- Where keysas-io reads the text of a signature, it accepts the device exactly for the keys of the
authority and the joined text that was signed. Assumes: the signatures are ideal for the two texts.
-/
theorem isSigned_signDevice_iff {keys : HybridKeyPair schemes}
    {usbCa : KeysasHybridPubKeys schemes} {signed identity : DeviceIdentity} {text : String}
    {image : List UInt8} (hsign : signDevice signed "out" keys = .ok text)
    (hideal : Ideal keys (Bincode.utf8 (signed.data "out")) usbCa
      (Bincode.utf8 (identity.data "out")))
    (hread : readRecord image = .ok text) :
    isSigned (some usbCa) image identity = true ↔
      publicKeys keys = some usbCa ∧ signed.data "out" = identity.data "out" := by
  obtain ⟨bytes, signature, hbytes, hsignature, hparse⟩ := exists_of_signDevice hsign
  rw [← Bincode.utf8_injective.eq_iff,
    ← verifyKeySignatures_sign_iff hideal hbytes hsignature]
  simp [isSigned, getSignature, hread, hparse]

/-- The firewall accepts the text of a signature exactly for the keys of the authority and the
joined text that was signed. Assumes: the signatures are ideal for the two texts. -/
theorem validateUsbSignature_signDevice_iff {keys : HybridKeyPair schemes}
    {usbCa : KeysasHybridPubKeys schemes} {signed : DeviceIdentity} {device : UsbDevice}
    {text : String} (hsign : signDevice signed "out" keys = .ok text)
    (hideal : Ideal keys (Bincode.utf8 (signed.data "out")) usbCa
      (Bincode.utf8 ((deviceIdentity device).data "out"))) :
    validateUsbSignature usbCa device text = .ok true ↔
      publicKeys keys = some usbCa ∧ signed.data "out" = (deviceIdentity device).data "out" := by
  obtain ⟨bytes, hbytes, htext⟩ := exists_of_okOr_bind_eq_ok hsign
  obtain ⟨publicKey, signature, -, hsignature, -⟩ := schemes.mlDsa87.verify_sign hbytes
  rw [← Bincode.utf8_injective.eq_iff,
    ← verifyKeySignatures_sign_iff hideal hbytes hsignature, ← Except.ok.inj htext]
  have hsplit := split_join
    (Base64.bar_not_mem_encode
      (schemes.ed25519.sign keys.classic (Bincode.utf8 (signed.data "out"))))
    (Base64.bar_not_mem_encode bytes)
  have hbar : String.singleton '|' = "|" := rfl
  rw [hbar] at hsplit
  simp [validateUsbSignature, hsplit, hsignature, schemes.ed25519.length_sign,
    ← data_deviceIdentity]

/-- One of the two programs accepts a text for an identity: keysas-io where it reads it from a disk,
or the firewall for a device that reports the identity. -/
inductive Accepts (usbCa : KeysasHybridPubKeys schemes) (text : String)
    (identity : DeviceIdentity) : Prop
  | isSigned (image : List UInt8) (hread : readRecord image = .ok text)
      (hsigned : Io.isSigned (some usbCa) image identity = true)
  | validateUsbSignature (device : UsbDevice) (hreported : deviceIdentity device = identity)
      (hvalid : Firewall.validateUsbSignature usbCa device text = .ok true)

/-- The text that a signature covers is the joined text of every identity that it is accepted for.
Assumes: the signatures are ideal for the two texts. -/
theorem data_eq_of_accepts {keys : HybridKeyPair schemes} {usbCa : KeysasHybridPubKeys schemes}
    {signed identity : DeviceIdentity} {text : String}
    (hsign : signDevice signed "out" keys = .ok text)
    (hideal : Ideal keys (Bincode.utf8 (signed.data "out")) usbCa
      (Bincode.utf8 (identity.data "out")))
    (haccepts : Accepts usbCa text identity) : signed.data "out" = identity.data "out" := by
  cases haccepts with
  | isSigned image hread hsigned =>
    exact ((isSigned_signDevice_iff hsign hideal hread).mp hsigned).2
  | validateUsbSignature device hreported hvalid =>
    subst hreported
    exact ((validateUsbSignature_signDevice_iff hsign hideal).mp hvalid).2

/-- A signature that is accepted for an identity was made for the same joined text; when one of the
two identities has no slashes, it was made for this identity. Assumes: the signatures are ideal for
the two texts. -/
theorem identity_of_accepts {keys : HybridKeyPair schemes} {usbCa : KeysasHybridPubKeys schemes}
    {signed identity : DeviceIdentity} {text : String}
    (hsign : signDevice signed "out" keys = .ok text)
    (hideal : Ideal keys (Bincode.utf8 (signed.data "out")) usbCa
      (Bincode.utf8 (identity.data "out")))
    (haccepts : Accepts usbCa text identity) :
    signed.data "out" = identity.data "out" ∧
      (signed.SlashFree ∨ identity.SlashFree → signed = identity) :=
  have hdata := data_eq_of_accepts hsign hideal haccepts
  ⟨hdata, identity_eq_of_data_eq hdata⟩

/-! ### Two sticks with one text -/

/-- The transparent key 7. -/
def transparentKeys : HybridKeyPair transparentSchemes :=
  ⟨(7 : UInt8), (7 : UInt8)⟩

/-- The text that the transparent key 7 makes for an identity. -/
def transparentText (identity : DeviceIdentity) : String :=
  let data := Bincode.utf8 (identity.data "out")
  Base64.encode (transparentEd25519.sign (7 : UInt8) data) ++ "|" ++ Base64.encode (7 :: data)

theorem signDevice_transparentKeys (identity : DeviceIdentity) :
    signDevice identity "out" transparentKeys = .ok (transparentText identity) := rfl

/-- A disk with the record of the text that the transparent key 7 makes for an identity. -/
def transparentDisk (identity : DeviceIdentity) : List UInt8 :=
  writeAt signatureOffset (record (transparentText identity)) []

/-- A device that reports the fields of an identity. -/
def reporting (identity : DeviceIdentity) : UsbDevice where
  deviceId := .ofText "/dev/sdb1"
  mntPoint := none
  vendor := .ofText identity.vendor
  model := .ofText identity.model
  revision := .ofText identity.revision
  serial := .ofText identity.serial
  usbSyspath := none

/-- keysas-io accepts the signature of a stick for the stick. -/
theorem identity_of_accepts_stick :
    stick.data "out" = stick.data "out" ∧
      (stick.SlashFree ∨ stick.SlashFree → stick = stick) := by
  have hsign := signDevice_transparentKeys stick
  have hideal : Ideal transparentKeys (Bincode.utf8 (stick.data "out")) usbCa
      (Bincode.utf8 (stick.data "out")) := ideal_transparent fun _ ↦ rfl
  have hread : readRecord (transparentDisk stick) = .ok (transparentText stick) :=
    readRecord_of_record (drop_writeAt _ _ _) (by decide +kernel)
  exact identity_of_accepts hsign hideal
    (.isSigned (transparentDisk stick) hread
      ((isSigned_signDevice_iff hsign hideal hread).mpr ⟨rfl, rfl⟩))

/-- Both programs accept a signature for another stick: the slash that separates two fields of the
one stands within a field of the other. -/
theorem accepts_shifted :
    signDevice slashedStick "out" transparentKeys = .ok (transparentText slashedStick) ∧
      Ideal transparentKeys (Bincode.utf8 (slashedStick.data "out")) usbCa
        (Bincode.utf8 (shiftedStick.data "out")) ∧
      readRecord (transparentDisk slashedStick) = .ok (transparentText slashedStick) ∧
      isSigned (some usbCa) (transparentDisk slashedStick) shiftedStick = true ∧
      deviceIdentity (reporting shiftedStick) = shiftedStick ∧
      validateUsbSignature usbCa (reporting shiftedStick) (transparentText slashedStick) =
        .ok true ∧
      slashedStick ≠ shiftedStick := by
  have hsign := signDevice_transparentKeys slashedStick
  have hideal : Ideal transparentKeys (Bincode.utf8 (slashedStick.data "out")) usbCa
      (Bincode.utf8 (shiftedStick.data "out")) :=
    ideal_transparent fun _ ↦ congrArg Bincode.utf8 data_shiftedStick
  have hread : readRecord (transparentDisk slashedStick) = .ok (transparentText slashedStick) :=
    readRecord_of_record (drop_writeAt _ _ _) (by decide +kernel)
  have hreported : deviceIdentity (reporting shiftedStick) = shiftedStick := by decide +kernel
  refine ⟨hsign, hideal, hread, ?_, hreported, ?_, by decide⟩
  · exact (isSigned_signDevice_iff hsign hideal hread).mpr ⟨rfl, data_shiftedStick⟩
  · apply (validateUsbSignature_signDevice_iff hsign (by rwa [hreported])).mpr
    rw [hreported]
    exact ⟨rfl, data_shiftedStick⟩

end Keysas.Admin
