import DcimBackend.Common.Value
import DcimBackend.Library.Words

/-!
# Reading a Modbus mapping

`_read_mapping` (`collectors/modbus_collector/services.py`): what is read for a mapping, and how
its registers become a value.

A mapping says in which order a device keeps the bytes of a register and the registers of a
value (`byte_order` and `word_order`), and the code reads neither.  `readMapping_iff` says for
which values that makes no difference.

`layout` is the model's own statement of where a value lies in its registers, for each of the four
pairs of orders, and `decodeRegisters` what the code makes of registers.  They meet in a device:
the client is a parameter, and `AnsweredBy` is all that is assumed of it, that it answers the
request of the mapping with the registers of the device.
-/

namespace DcimBackend

open Library

/-- `devices.ModbusRegisterMapping`, with what is read of it. -/
structure ModbusRegisterMapping where
  slaveId : ℕ := 1
  functionCode : ℕ := 3
  registerAddress : ℕ
  registerCount : ℕ := 1
  dataType : String
  byteOrder : String := "BIG"
  wordOrder : String := "BIG"

/-- The arguments of a call of the client. -/
structure ModbusRequest where
  address : ℕ
  count : ℕ
  slave : ℕ
deriving DecidableEq

/-- A response of `pymodbus`: an error with its text, or what was read. -/
inductive ModbusResponse (α : Type)
  | error (text : String)
  | items (values : List α)

/-- What `_read_mapping` raises.  An exception of the client goes through. -/
inductive ModbusReadError
  | response (message : String)
  | index
  | client (message : String)
deriving DecidableEq

/-- `pymodbus.client.ModbusTcpClient`. -/
structure ModbusClient where
  readCoils : ModbusRequest → Except ModbusReadError (ModbusResponse Bool)
  readDiscreteInputs : ModbusRequest → Except ModbusReadError (ModbusResponse Bool)
  readHoldingRegisters : ModbusRequest → Except ModbusReadError (ModbusResponse (BitVec 16))
  readInputRegisters : ModbusRequest → Except ModbusReadError (ModbusResponse (BitVec 16))

namespace ModbusResponse

/-- `result.bits` and `result.registers`, behind the test for `result.isError()`. -/
def values {α : Type} : ModbusResponse α → Except ModbusReadError (List α)
  | .error text => throw (.response text)
  | .items values => return values

end ModbusResponse

namespace Collectors

/-- `xs[i]`. -/
def item {α : Type} (xs : List α) (i : ℕ) : Except ModbusReadError α :=
  match xs[i]? with
  | some x => return x
  | none => throw .index

/-- `struct.unpack(">f", raw.to_bytes(4, "big"))[0]`. -/
def unpackFloat (raw : ℕ) : PyFloat :=
  let fraction : ℕ := raw % 2 ^ 23
  let exponent : ℕ := raw / 2 ^ 23 % 2 ^ 8
  let negative := raw / 2 ^ 31 % 2 = 1
  let sign : ℚ := if negative then -1 else 1
  if exponent = 255 then
    if fraction ≠ 0 then .nan else if negative then .negInf else .posInf
  else if exponent = 0 then .finite (sign * fraction * 2 ^ (-149 : ℤ))
  else .finite (sign * (2 ^ 23 + fraction) * 2 ^ ((exponent : ℤ) - 150))

/-- `(mapping.data_type or "uint16").lower()`. -/
def dataTypeOf (lower : String → String) (m : ModbusRegisterMapping) : String :=
  lower (if m.dataType = "" then "uint16" else m.dataType)

/-- What `_read_mapping` does with the registers. -/
def decodeRegisters (dataType : String) (registers : List (BitVec 16)) :
    Except ModbusReadError PyValue := do
  if dataType ∈ ["uint16", "integer", "int"] then
    let value ← item registers 0
    return .int value.toNat
  if dataType = "int16" then
    let value ← item registers 0
    return .int (if value.toNat > 32767 then value.toNat - 65536 else value.toNat)
  if dataType ∈ ["uint32", "int32", "float32"] then
    match registers with
    | high :: low :: _ =>
        let raw := high.toNat <<< 16 + low.toNat
        if dataType = "float32" then
          return .float (unpackFloat raw)
        return .int (if dataType = "int32" ∧ raw > 2147483647 then raw - 4294967296 else raw)
    | _ => throw (.response "Expected 2 registers")
  let value ← item registers 0
  return .int value.toNat

/-- `_read_mapping`. -/
def readMapping (lower : String → String) (client : ModbusClient) (m : ModbusRegisterMapping) :
    Except ModbusReadError PyValue := do
  let request : ModbusRequest :=
    { address := m.registerAddress, count := m.registerCount, slave := m.slaveId }
  match m.functionCode with
  | 1 =>
      let bits ← (← client.readCoils request).values
      return .bool (← item bits 0)
  | 2 =>
      let bits ← (← client.readDiscreteInputs request).values
      return .bool (← item bits 0)
  | 3 =>
      let registers ← (← client.readHoldingRegisters request).values
      decodeRegisters (dataTypeOf lower m) registers
  | 4 =>
      let registers ← (← client.readInputRegisters request).values
      decodeRegisters (dataTypeOf lower m) registers
  | code => throw (.response s!"Unsupported Modbus function code: {code}")

/-! ### What a device keeps -/

/-- The data types of whole numbers, with a size. -/
inductive IntegerType
  | uint16
  | int16
  | uint32
  | int32
deriving DecidableEq

namespace IntegerType

/-- The name of a type in a mapping. -/
def name : IntegerType → String
  | .uint16 => "uint16"
  | .int16 => "int16"
  | .uint32 => "uint32"
  | .int32 => "int32"

/-- The number of registers of a value. -/
def registers : IntegerType → ℕ
  | .uint16 | .int16 => 1
  | .uint32 | .int32 => 2

def signed : IntegerType → Bool
  | .uint16 | .uint32 => false
  | .int16 | .int32 => true

/-- The values of a type. -/
def Holds (t : IntegerType) (v : ℤ) : Prop := FitsWords t.signed t.registers v

instance (t : IntegerType) (v : ℤ) : Decidable (t.Holds v) :=
  inferInstanceAs (Decidable (FitsWords t.signed t.registers v))

/-- The registers of a value, in the order of a mapping. -/
def layout (t : IntegerType) (bytes words : Endian) (v : ℤ) : List (BitVec 16) :=
  arranged bytes words (toWords t.registers v)

end IntegerType

/-- The name of an order in a mapping. -/
def orderName : Endian → String
  | .big => "BIG"
  | .little => "LITTLE"

/-- The registers of a device, by its slave id and their addresses. -/
structure ModbusDevice where
  holding : ℕ → ℕ → BitVec 16
  input : ℕ → ℕ → BitVec 16

namespace ModbusDevice

variable (device : ModbusDevice) (m : ModbusRegisterMapping)

/-- The registers that a mapping is about. -/
def space (address : ℕ) : BitVec 16 :=
  if m.functionCode = 3 then device.holding m.slaveId address
  else device.input m.slaveId address

/-- The registers that a mapping asks for. -/
def asked : List (BitVec 16) :=
  (List.range m.registerCount).map fun i => device.space m (m.registerAddress + i)

/-- The registers from the mapping's address on are these. -/
def Contains (registers : List (BitVec 16)) : Prop :=
  (List.range registers.length).map (fun i => device.space m (m.registerAddress + i)) = registers

/-- The client answers the mapping's request with the registers of the device. -/
def AnsweredBy (client : ModbusClient) : Prop :=
  (if m.functionCode = 3 then client.readHoldingRegisters else client.readInputRegisters)
    { address := m.registerAddress, count := m.registerCount, slave := m.slaveId } =
      .ok (.items (device.asked m))

end ModbusDevice

variable {lower : String → String} {client : ModbusClient} {device : ModbusDevice}
  {m : ModbusRegisterMapping} {t : IntegerType} {bytes words : Endian} {v : ℤ}
  {registers : List (BitVec 16)}

theorem IntegerType.length_layout : (t.layout bytes words v).length = t.registers := by
  rw [layout, length_arranged, length_toWords]

theorem ofWords_pair {high low : BitVec 16} :
    ofWords [high, low] = high.toNat <<< 16 + low.toNat := by
  simp [ofWords, Nat.shiftLeft_eq]

/-- The code takes the first registers for those of the value in the order BIG, BIG. -/
theorem decodeRegisters_eq (hlength : t.registers ≤ registers.length) :
    decodeRegisters t.name registers =
      .ok (.int (wordsValue t.signed (registers.take t.registers))) := by
  obtain _ | ⟨high, rest⟩ := registers
  · cases t <;> cases hlength
  cases t with
  | uint16 =>
      have hvalue : wordsValue false [high] = high.toNat := by simp [wordsValue, ofWords]
      show decodeRegisters "uint16" (high :: rest) = .ok (.int (wordsValue false [high]))
      rw [hvalue]
      rfl
  | int16 =>
      have hvalue : wordsValue true [high] =
          if high.toNat > 32767 then (high.toNat : ℤ) - 65536 else high.toNat := by
        simp only [wordsValue, ofWords, List.length_singleton, List.length_nil, true_and]
        split_ifs <;> omega
      show decodeRegisters "int16" (high :: rest) = .ok (.int (wordsValue true [high]))
      rw [hvalue]
      rfl
  | uint32 =>
      obtain _ | ⟨low, rest⟩ := rest
      · cases hlength with | step h => cases h
      have hvalue : wordsValue false [high, low] = (high.toNat <<< 16 + low.toNat : ℕ) := by
        simp [wordsValue, ofWords_pair]
      show decodeRegisters "uint32" (high :: low :: rest) =
        .ok (.int (wordsValue false [high, low]))
      rw [hvalue]
      simp [decodeRegisters]
      rfl
  | int32 =>
      obtain _ | ⟨low, rest⟩ := rest
      · cases hlength with | step h => cases h
      have hvalue : wordsValue true [high, low] =
          if high.toNat <<< 16 + low.toNat > 2147483647
          then ((high.toNat <<< 16 + low.toNat : ℕ) : ℤ) - 4294967296
          else (high.toNat <<< 16 + low.toNat : ℕ) := by
        simp only [wordsValue, ofWords_pair, List.length_cons, List.length_nil, true_and]
        split_ifs <;> omega
      show decodeRegisters "int32" (high :: low :: rest) =
        .ok (.int (wordsValue true [high, low]))
      rw [hvalue]
      simp [decodeRegisters]
      rfl

/-- Too few registers have no value. -/
theorem decodeRegisters_ne_ok {value : PyValue} (hlength : registers.length < t.registers) :
    decodeRegisters t.name registers ≠ .ok value := by
  intro h
  obtain _ | ⟨high, _ | ⟨low, rest⟩⟩ := registers
  · cases t <;> simp [decodeRegisters, IntegerType.name, item] at h <;> cases h
  · cases t with
    | uint16 | int16 => exact absurd hlength (Nat.lt_irrefl 1)
    | uint32 | int32 => simp [decodeRegisters, IntegerType.name] at h; cases h
  · have htwo : t.registers ≤ 2 := by cases t <;> simp [IntegerType.registers]
    rw [List.length_cons, List.length_cons] at hlength
    omega

/-- What is read of registers that the device returns. -/
theorem readMapping_eq (hfunction : m.functionCode = 3 ∨ m.functionCode = 4)
    (hclient : device.AnsweredBy m client) :
    readMapping lower client m = decodeRegisters (dataTypeOf lower m) (device.asked m) := by
  unfold ModbusDevice.AnsweredBy at hclient
  rcases hfunction with h | h
  · rw [if_pos h] at hclient
    simp only [readMapping, h, hclient]
    rfl
  · rw [if_neg (by rw [h]; decide)] at hclient
    simp only [readMapping, h, hclient]
    rfl

/-- A mapping that asks for enough registers is answered with those that the device keeps for
it. -/
theorem take_asked (hcontains : device.Contains m registers)
    (hcount : registers.length ≤ m.registerCount) :
    (device.asked m).take registers.length = registers := by
  conv_rhs => rw [← hcontains]
  rw [ModbusDevice.asked, ← List.map_take, List.take_range, Nat.min_eq_left hcount]

/-- **Exactly when a value is read as it is kept**: the mapping asks for all of its registers,
and they are the same in the order of the mapping as in the order BIG, BIG. -/
theorem readMapping_iff (hfunction : m.functionCode = 3 ∨ m.functionCode = 4)
    (hclient : device.AnsweredBy m client) (htype : dataTypeOf lower m = t.name)
    (_hbytes : m.byteOrder = orderName bytes) (_hwords : m.wordOrder = orderName words)
    (hv : t.Holds v) (hcontains : device.Contains m (t.layout bytes words v)) :
    readMapping lower client m = .ok (.int v) ↔
      t.registers ≤ m.registerCount ∧ t.layout bytes words v = t.layout .big .big v := by
  have hasked : (device.asked m).length = m.registerCount := by
    rw [ModbusDevice.asked, List.length_map, List.length_range]
  rw [readMapping_eq hfunction hclient, htype]
  by_cases hcount : t.registers ≤ m.registerCount
  · have htake : (device.asked m).take t.registers = t.layout bytes words v := by
      have h := take_asked hcontains (by rw [IntegerType.length_layout]; exact hcount)
      rwa [IntegerType.length_layout] at h
    rw [decodeRegisters_eq (by rw [hasked]; exact hcount), htake, Except.ok.injEq,
      PyValue.int.injEq, wordsValue_eq_iff IntegerType.length_layout hv, and_iff_right hcount]
    rfl
  · refine iff_of_false (decodeRegisters_ne_ok ?_) fun h => hcount h.1
    rw [hasked]
    exact Nat.lt_of_not_le hcount

/-! ### A meter with its bytes in the other order -/

/-- A mapping of a meter that keeps the low byte first. -/
def meterMapping : ModbusRegisterMapping where
  registerAddress := 100
  dataType := "uint16"
  byteOrder := "LITTLE"

/-- The meter has this word in every register. -/
def meter (word : BitVec 16) : ModbusDevice where
  holding _ _ := word
  input _ _ := word

/-- The client of a device with one word. -/
def meterClient (word : BitVec 16) : ModbusClient where
  readCoils _ := .ok (.items [])
  readDiscreteInputs _ := .ok (.items [])
  readHoldingRegisters request := .ok (.items (List.replicate request.count word))
  readInputRegisters request := .ok (.items (List.replicate request.count word))

theorem dataTypeOf_meterMapping : dataTypeOf String.toLower meterMapping = "uint16" := by
  decide +kernel

/-- A value with two equal bytes is read as it is. -/
theorem readMapping_iff_meter :
    readMapping String.toLower (meterClient 0x0101) meterMapping = .ok (.int 257) ↔
      IntegerType.uint16.registers ≤ meterMapping.registerCount ∧
        IntegerType.uint16.layout .little .big 257 = IntegerType.uint16.layout .big .big 257 := by
  have hclient : (meter 0x0101).AnsweredBy meterMapping (meterClient 0x0101) := rfl
  exact readMapping_iff (.inl rfl) hclient dataTypeOf_meterMapping rfl rfl (by decide) rfl

/-- The meter keeps 1 with the low byte first, and 256 is read. -/
theorem meter_not_readMapping :
    meterMapping.byteOrder = orderName .little ∧ meterMapping.wordOrder = orderName .big ∧
      (meter 0x0100).Contains meterMapping (IntegerType.uint16.layout .little .big 1) ∧
      (meter 0x0100).AnsweredBy meterMapping (meterClient 0x0100) ∧
      readMapping String.toLower (meterClient 0x0100) meterMapping = .ok (.int 256) := by
  refine ⟨rfl, rfl, rfl, rfl, ?_⟩
  show decodeRegisters (dataTypeOf String.toLower meterMapping) [0x0100] = _
  rw [dataTypeOf_meterMapping]
  rfl

end Collectors

end DcimBackend
