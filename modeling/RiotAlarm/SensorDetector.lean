import RiotAlarm.Types

/-! The bodies of the two detection loops, statement by statement. What differs between
a board with an accelerometer and one with an infrared sensor is one parameter of the
node's model. -/
namespace RiotAlarm.Sensor

/-- What one statement of a loop body leaves behind: the loop's variables, whether it
set `sensor_fired`, and the statement that follows, none at the end of the body. -/
structure Outcome (Body Memory : Type) where
  count : Nat
  memory : Memory
  fired : Bool
  next : Option Body

/-- A loop body: its statements, the variables it keeps beside `count`, and what the
hardware gives it to read. -/
structure Detector where
  Reading : Type
  Body : Type
  Memory : Type
  initial : Memory
  entry : Body
  step : Reading → Body → Nat → Memory → Outcome Body Memory

def countStep (count : Nat) : Nat := if count < 101 then count + 1 else count

/-! The infrared sensor. -/

inductive IrBody where
  | read
  | beepShort
  | fire
  | puts
  | count
  | usleep
  deriving DecidableEq

/-- The reading is the level of the pin. -/
def irStep (level : Int) (body : IrBody) (count : Nat) (_ : Unit) : Outcome IrBody Unit :=
  match body with
  | .read => ⟨count,(),false,some (if level = 0 then .beepShort else .count)⟩
  | .beepShort => ⟨count,(),false,some .fire⟩
  | .fire => if count > 100 then ⟨count,(),true,some .puts⟩ else ⟨count,(),false,some .count⟩
  | .puts => ⟨count,(),false,some .count⟩
  | .count => ⟨countStep count,(),false,some .usleep⟩
  | .usleep => ⟨count,(),false,none⟩

def irDetector : Detector := ⟨Int,IrBody,Unit,(),.read,irStep⟩

/-! The accelerometer. -/

/-- `mpu9x50_results_t`. -/
structure Accel where
  xAxis : Int16
  yAxis : Int16
  zAxis : Int16
  deriving DecidableEq

inductive Side where
  | noChange
  | top
  | bottom
  | left
  | right
  | up
  | down
  deriving DecidableEq, Repr

def TAP_THRESH : Int := 200
def LAY_THRESH : Int := 500

def getSide (accl : Accel) : Side :=
  if accl.xAxis.toInt > LAY_THRESH then .left
  else if accl.xAxis.toInt < -LAY_THRESH then .right
  else if accl.zAxis.toInt > LAY_THRESH then .bottom
  else if accl.zAxis.toInt < -LAY_THRESH then .top
  else if accl.yAxis.toInt > LAY_THRESH then .down
  else if accl.yAxis.toInt < -LAY_THRESH then .up
  else .noChange

/-- `abs(a) - abs(b) > TAP_THRESH`, in `int`. -/
def exceeds (a b : Int16) : Bool := (a.toInt.natAbs : Int) - b.toInt.natAbs > TAP_THRESH

def detectTap (acclPrev accl : Accel) : Bool :=
  match getSide acclPrev with
  | .top | .bottom => exceeds accl.zAxis acclPrev.zAxis
  | .left | .right => exceeds accl.xAxis acclPrev.xAxis
  | .up | .down => exceeds accl.yAxis acclPrev.yAxis
  | .noChange => false

structure MpuMemory where
  accl : Accel
  acclPrev : Accel
  acclSide : Accel
  side : Side
  sidePrev : Side

inductive MpuBody where
  | readAccel
  | detectTap
  | beepShort
  | fireTap
  | puts
  | filter
  | side
  | compare
  | beepLong
  | printf
  | fireSide
  | sidePrev
  | count
  | acclPrev
  | usleep
  deriving DecidableEq

/-- `smooth s c` is `(s * 0.99) + (c * 0.01)` in the board's floating point, converted
back to 16 bits. A reading that fails leaves what was read before. -/
def mpuStep (smooth : Int16 → Int16 → Int16) (reading : Accel) (body : MpuBody) (count : Nat) (m : MpuMemory) :
    Outcome MpuBody MpuMemory :=
  match body with
  | .readAccel => ⟨count,{ m with accl := reading },false,some .detectTap⟩
  | .detectTap => ⟨count,m,false,some (if detectTap m.acclPrev m.accl then .beepShort else .filter)⟩
  | .beepShort => ⟨count,m,false,some .fireTap⟩
  | .fireTap => ⟨count,m,decide (count > 100),some .puts⟩
  | .puts => ⟨count,m,false,some .filter⟩
  | .filter =>
    let acclSide : Accel := ⟨smooth m.acclSide.xAxis m.accl.xAxis,smooth m.acclSide.yAxis m.accl.yAxis,
      smooth m.acclSide.zAxis m.accl.zAxis⟩
    ⟨count,{ m with acclSide },false,some .side⟩
  | .side => ⟨count,{ m with side := getSide m.acclSide },false,some .compare⟩
  | .compare => ⟨count,m,false,some (if m.side ≠ m.sidePrev ∧ m.side ≠ .noChange then .beepLong else .sidePrev)⟩
  | .beepLong => ⟨count,m,false,some .printf⟩
  | .printf => ⟨count,m,false,some .fireSide⟩
  | .fireSide => ⟨count,m,decide (count > 100),some .sidePrev⟩
  | .sidePrev => ⟨count,{ m with sidePrev := m.side },false,some .count⟩
  | .count => ⟨countStep count,m,false,some .acclPrev⟩
  | .acclPrev => ⟨count,{ m with acclPrev := m.accl },false,some .usleep⟩
  | .usleep => ⟨count,m,false,none⟩

def Accel.zero : Accel := ⟨0,0,0⟩

def mpuDetector (smooth : Int16 → Int16 → Int16) : Detector :=
  ⟨Accel,MpuBody,MpuMemory,⟨.zero,.zero,.zero,.noChange,.noChange⟩,.readAccel,mpuStep smooth⟩

end RiotAlarm.Sensor
