-- SUMMARY: Reading the FIFO of the IMU: packets, their conversion to samples, and the estimate of their timestamps.
import TempoBt.Services.Sensors
import TempoBt.Lib.Machine

/-!
# IMU FIFO

A read takes up to sixteen packets off the FIFO of the sensor and converts those that carry
both an acceleration and a rate. The packets are not timestamped by the sensor. The time of
a sample is estimated back from the time of the read. Floats are exact.
-/

namespace TempoBt

/-! ## Model -/

/-- `imu_sample_t`, as a read fills it. -/
structure FifoSample where
  timestampUs : UInt64
  accelX : ℚ
  accelY : ℚ
  accelZ : ℚ
  gyroX : ℚ
  gyroY : ℚ
  gyroZ : ℚ
  temperature : ℚ
  deriving DecidableEq

/-- `imu_config_t` -/
structure ImuConfig where
  odrHz : UInt16
  accelRangeG : UInt8
  gyroRangeDps : UInt16
  deriving DecidableEq

/-- The state of the IMU service. -/
structure Imu where
  deviceReady : Bool
  fifoRunning : Bool
  currentConfig : ImuConfig
  accelFilter : AccelFilter

/-- What the bus and the clock answer in one read. -/
structure FifoBus where
  countRet : Int
  countH : UInt8
  countL : UInt8
  dataRet : Int
  /-- Byte by byte, from the oldest packet on. -/
  data : Nat → UInt8
  now : UInt64

/-- The first 14 bytes of a packet; the rest is not used. -/
structure FifoPacket where
  header : UInt8
  accelX : Int
  accelY : Int
  accelZ : Int
  gyroX : Int
  gyroY : Int
  gyroZ : Int
  tempRaw : Int
  deriving DecidableEq

/-- A big-endian `int16_t`. -/
def int16Be (high low : UInt8) : Int := ((high.toUInt16 <<< 8) ||| low.toUInt16).toInt16.toInt

/-- In LSB per m/s². -/
def accelSensitivity (config : ImuConfig) : ℚ :=
  (if config.accelRangeG = 2 then 16384
    else if config.accelRangeG = 4 then 8192
    else if config.accelRangeG = 8 then 4096
    else 2048) / (980665 / 100000)

/-- In LSB per rad/s. -/
def gyroSensitivity (config : ImuConfig) : ℚ :=
  (if config.gyroRangeDps = 250 then 131
    else if config.gyroRangeDps = 500 then 655 / 10
    else if config.gyroRangeDps = 1000 then 328 / 10
    else 164 / 10) * (572957795 / 10000000)

/-- The packet that starts at byte `16 * i` of the buffer. -/
def fifoPacket (data : Nat → UInt8) (i : Nat) : FifoPacket where
  header := data (16 * i)
  accelX := int16Be (data (16 * i + 1)) (data (16 * i + 2))
  accelY := int16Be (data (16 * i + 3)) (data (16 * i + 4))
  accelZ := int16Be (data (16 * i + 5)) (data (16 * i + 6))
  gyroX := int16Be (data (16 * i + 7)) (data (16 * i + 8))
  gyroY := int16Be (data (16 * i + 9)) (data (16 * i + 10))
  gyroZ := int16Be (data (16 * i + 11)) (data (16 * i + 12))
  tempRaw := (data (16 * i + 13)).toInt8.toInt

/-- Not marked empty, and with both accel and gyro data. -/
def FifoPacket.Usable (p : FifoPacket) : Prop :=
  p.header &&& 0x80 = 0 ∧ p.header &&& 0x60 = 0x60

instance (p : FifoPacket) : Decidable p.Usable := instDecidableAnd

/-- In microseconds. The division is undefined for a rate of 0, which nothing configures. -/
def samplePeriodUs (config : ImuConfig) : UInt64 := UInt64.ofNat (1000000 / config.odrHz.toNat)

/-- The sample of a packet. -/
def FifoPacket.sample (config : ImuConfig) (timestampUs : UInt64) (p : FifoPacket) :
    FifoSample where
  timestampUs := timestampUs
  accelX := p.accelX / accelSensitivity config
  accelY := p.accelY / accelSensitivity config
  accelZ := p.accelZ / accelSensitivity config
  gyroX := p.gyroX / gyroSensitivity config
  gyroY := p.gyroY / gyroSensitivity config
  gyroZ := p.gyroZ / gyroSensitivity config
  temperature := 25 + p.tempRaw / (207 / 100)

/-- The acceleration in g that goes into the filter. -/
def FifoSample.magnitudeG (sqrtf : ℚ → ℚ) (s : FifoSample) : ℚ :=
  let axG := s.accelX / (980665 / 100000)
  let ayG := s.accelY / (980665 / 100000)
  let azG := s.accelZ / (980665 / 100000)
  sqrtf (axG * axG + ayG * ayG + azG * azG)

/-- The packets that a read takes off the FIFO: the first half of `imu_fifo_read`. -/
def fifoTake (bus : FifoBus) (maxCount : Nat) (imu : Imu) : Except Int (List FifoPacket) :=
  if !imu.deviceReady || !imu.fifoRunning then .error (-19)
  else if maxCount = 0 then .error (-22)
  else if bus.countRet ≠ 0 then .error bus.countRet
  else
    let fifoCount := bus.countH.toNat * 256 + bus.countL.toNat
    let packetsToRead := min (min (fifoCount / 16) maxCount) 16
    if fifoCount / 16 = 0 then .ok []
    else if bus.dataRet ≠ 0 then .error bus.dataRet
    else .ok ((List.range packetsToRead).map (fifoPacket bus.data))

/-- The estimate for the sample with number `validCount` among `packetsToRead` packets. -/
def fifoTimestamp (config : ImuConfig) (now : UInt64) (packetsToRead validCount : Nat) : UInt64 :=
  now - UInt64.ofNat (packetsToRead - 1 - validCount) * samplePeriodUs config

/-- The loop over the packets, from sample number `validCount` on. -/
def fifoParse (sqrtf : ℚ → ℚ) (config : ImuConfig) (now : UInt64) (packetsToRead : Nat) :
    Nat → List FifoPacket → AccelFilter → AccelFilter × List FifoSample
  | _, [], filter => (filter, [])
  | validCount, p :: packets, filter =>
    if p.Usable then
      let sample := p.sample config (fifoTimestamp config now packetsToRead validCount)
      let rest := fifoParse sqrtf config now packetsToRead (validCount + 1) packets
        (accelFilterUpdate (sample.magnitudeG sqrtf) filter)
      (rest.1, sample :: rest.2)
    else fifoParse sqrtf config now packetsToRead validCount packets filter

/-- `imu_fifo_read`; the number of samples is the length of the list. -/
def imuFifoRead (sqrtf : ℚ → ℚ) (bus : FifoBus) (maxCount : Nat) (imu : Imu) :
    Imu × Except Int (List FifoSample) :=
  match fifoTake bus maxCount imu with
  | .error ret => (imu, .error ret)
  | .ok packets =>
    let parsed := fifoParse sqrtf imu.currentConfig bus.now packets.length 0 packets imu.accelFilter
    ({ imu with accelFilter := parsed.1 }, .ok parsed.2)

/-! ## Timestamps -/

/-- The packets of a read that become samples. -/
def usablePackets (packets : List FifoPacket) : List FifoPacket :=
  packets.filter fun p => p.Usable

/-- The timestamps of a read, oldest first. -/
def fifoStamps (bus : FifoBus) (maxCount : Nat) (imu : Imu) : List UInt64 :=
  match fifoTake bus maxCount imu with
  | .error _ => []
  | .ok packets =>
    (List.range (usablePackets packets).length).map fun k =>
      bus.now - UInt64.ofNat (packets.length - 1 - k) * samplePeriodUs imu.currentConfig

theorem fifoParse_timestamps (sqrtf : ℚ → ℚ) (config : ImuConfig) (now : UInt64)
    (packetsToRead : Nat) {packets : List FifoPacket} {validCount : Nat} {filter : AccelFilter} :
    (fifoParse sqrtf config now packetsToRead validCount packets filter).2.map
        FifoSample.timestampUs =
      (List.range (usablePackets packets).length).map fun k =>
        fifoTimestamp config now packetsToRead (validCount + k) := by
  induction packets generalizing validCount filter with
  | nil => rfl
  | cons p packets ih =>
    unfold fifoParse usablePackets
    split
    · rename_i husable
      rw [List.filter_cons_of_pos (by simpa using husable), List.length_cons,
        List.range_succ_eq_map, List.map_cons, List.map_cons, List.map_map, ih]
      refine congrArg _ (List.map_congr_left fun k _ => ?_)
      rw [Function.comp, Nat.succ_eq_add_one, Nat.add_right_comm, Nat.add_assoc]
    · rename_i husable
      rw [List.filter_cons_of_neg (by simpa using husable)]
      exact ih

/-- A read that fails yields no samples; the others carry the estimated timestamps. -/
theorem imuFifoRead_timestamps (sqrtf : ℚ → ℚ) (bus : FifoBus) (maxCount : Nat) (imu : Imu) :
    ((imuFifoRead sqrtf bus maxCount imu).2.toOption.getD []).map FifoSample.timestampUs =
      fifoStamps bus maxCount imu := by
  unfold imuFifoRead fifoStamps
  cases fifoTake bus maxCount imu with
  | error ret => rfl
  | ok packets =>
    refine (fifoParse_timestamps _ _ _ _).trans (List.map_congr_left fun k _ => ?_)
    rw [fifoTimestamp, Nat.zero_add]

/-- A read changes nothing that the next one's packets and timestamps depend on. -/
theorem fifoStamps_imuFifoRead (sqrtf : ℚ → ℚ) (bus : FifoBus) (maxCount : Nat) (imu : Imu)
    (bus' : FifoBus) (maxCount' : Nat) :
    fifoStamps bus' maxCount' (imuFifoRead sqrtf bus maxCount imu).1 =
      fifoStamps bus' maxCount' imu := by
  unfold imuFifoRead
  cases fifoTake bus maxCount imu <;> rfl

end TempoBt
