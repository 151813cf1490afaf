/-!
# Opcodes and client systems

The first byte of a message, by sender, and operating systems that a client may report.
-/

namespace Gatehouse.Wire

namespace ClientOpcode

def disconnect : UInt8 := 0x0F
def logout : UInt8 := 0x14
def ping : UInt8 := 0x1D
def pingBack : UInt8 := 0x1E

end ClientOpcode

namespace ServerOpcode

def enterWorld : UInt8 := 0x0F
def loginError : UInt8 := 0x14
def waitingList : UInt8 := 0x16
def ping : UInt8 := 0x1D
def pingBack : UInt8 := 0x1E
def challenge : UInt8 := 0x1F
def extended : UInt8 := 0x32

end ServerOpcode

namespace ClientSystem

def windows : UInt16 := 0x02
def qtLinux : UInt16 := 0x04
def otclientLinux : UInt16 := 0x0A
def otclientMac : UInt16 := 0x0C

end ClientSystem

end Gatehouse.Wire
