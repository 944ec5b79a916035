/-! Time, which is counted in nanoseconds. -/
namespace Baseboard

def millisecond : Nat := 1000000

def second : Nat := 1000 * millisecond

end Baseboard
