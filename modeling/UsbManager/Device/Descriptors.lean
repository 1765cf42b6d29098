import UsbManager.Device.Parser
import UsbManager.Lib.Framing

/-!
# Descriptor trees and their encodings

What a configuration descriptor buffer is meant to say: a list of configurations, each with its
interfaces and their endpoints, every field in the width of its descriptor. A buffer encodes a tree
if its descriptors of the three tree types are, in order, those of the tree read from the root down;
descriptors of other types may stand anywhere.
-/

namespace UsbManager.Descriptor

open Framing

structure ConfigFields where
  bConfigurationValue : UInt8
  iConfiguration : UInt8
  bmAttributes : UInt8
  bMaxPower : UInt8

structure InterfaceFields where
  bInterfaceNumber : UInt8
  bAlternateSetting : UInt8
  bInterfaceClass : UInt8
  bInterfaceSubClass : UInt8
  bInterfaceProtocol : UInt8
  iInterface : UInt8

structure EndpointFields where
  bEndpointAddress : UInt8
  bmAttributes : UInt8
  wMaxPacketSize : UInt16
  bInterval : UInt8

structure InterfaceTree where
  fields : InterfaceFields
  endpoints : List EndpointFields

structure ConfigTree where
  fields : ConfigFields
  interfaces : List InterfaceTree

/-- One descriptor of a tree. -/
inductive Node where
  | config (fields : ConfigFields)
  | interface (fields : InterfaceFields)
  | endpoint (fields : EndpointFields)

/-! ### The tree as the parser's data types -/

/-- An endpoint carries the id of its interface. -/
def EndpointFields.toEndpoint (interfaceId : UInt8) (e : EndpointFields) : USBEndpoint where
  address := e.bEndpointAddress.toUInt32
  attributes := e.bmAttributes.toUInt32
  interval := e.bInterval.toNat
  maxPacketSize := e.wMaxPacketSize.toNat
  interfaceId := interfaceId

def InterfaceTree.toInterface (t : InterfaceTree) : UsbInterface where
  id := t.fields.bInterfaceNumber.toNat
  protocol := t.fields.bInterfaceProtocol.toNat
  klass := t.fields.bInterfaceClass.toNat
  subClass := t.fields.bInterfaceSubClass.toNat
  alternateSetting := t.fields.bAlternateSetting.toNat
  iInterface := t.fields.iInterface
  endpoints := t.endpoints.map (EndpointFields.toEndpoint t.fields.bInterfaceNumber)

def ConfigTree.toConfig (t : ConfigTree) : USBConfig where
  id := t.fields.bConfigurationValue.toNat
  attributes := t.fields.bmAttributes.toUInt32
  maxPower := t.fields.bMaxPower.toNat
  iConfiguration := t.fields.iConfiguration
  interfaces := t.interfaces.map InterfaceTree.toInterface

def toConfigs (tree : List ConfigTree) : List USBConfig := tree.map ConfigTree.toConfig

/-! ### Encodings -/

def InterfaceTree.nodes (t : InterfaceTree) : List Node := .interface t.fields :: t.endpoints.map .endpoint

def ConfigTree.nodes (t : ConfigTree) : List Node := .config t.fields :: t.interfaces.flatMap InterfaceTree.nodes

/-- The descriptors of a tree, from the root down. -/
def nodes (tree : List ConfigTree) : List Node := tree.flatMap ConfigTree.nodes

/-- The bytes of one descriptor. Counts and total lengths are arbitrary, and so are the two bytes
that make an endpoint descriptor an audio one. -/
def EncodesNode : Node → List UInt8 → Prop
  | .config f, frame => ∃ low high count,
      frame = [9, 2, low, high, count, f.bConfigurationValue, f.iConfiguration, f.bmAttributes, f.bMaxPower]
  | .interface f, frame => ∃ count,
      frame = [9, 4, f.bInterfaceNumber, f.bAlternateSetting, count, f.bInterfaceClass, f.bInterfaceSubClass,
        f.bInterfaceProtocol, f.iInterface]
  | .endpoint f, frame => ∃ low high, word low high = f.wMaxPacketSize ∧
      (frame = [7, 5, f.bEndpointAddress, f.bmAttributes, low, high, f.bInterval] ∨
        ∃ refresh synch,
          frame = [9, 5, f.bEndpointAddress, f.bmAttributes, low, high, f.bInterval, refresh, synch])

def descriptorType (frame : List UInt8) : UInt8 := byteAt frame 1

def isTreeDescriptor (frame : List UInt8) : Bool :=
  descriptorType frame == descriptorTypeConfig || descriptorType frame == descriptorTypeInterface ||
    descriptorType frame == descriptorTypeEndpoint

structure Encodes (tree : List ConfigTree) (frames : List (List UInt8)) : Prop where
  framed : ∀ frame ∈ frames, Framed frame
  nodes : List.Forall₂ EncodesNode (nodes tree) (frames.filter isTreeDescriptor)

/-- The descriptor's length is not one that its type has. -/
def WrongSize (frame : List UInt8) : Prop :=
  (descriptorType frame = descriptorTypeConfig ∧ frame.length ≠ 9) ∨
  (descriptorType frame = descriptorTypeInterface ∧ frame.length ≠ 9) ∨
  (descriptorType frame = descriptorTypeEndpoint ∧ frame.length ≠ 7 ∧ frame.length ≠ 9)

/-- The descriptor cannot follow the tree: its size is wrong, or it has no parent. -/
def Offends (tree : List ConfigTree) (frame : List UInt8) : Prop :=
  WrongSize frame ∨
  (descriptorType frame = descriptorTypeInterface ∧ tree = []) ∨
  (descriptorType frame = descriptorTypeEndpoint ∧ ∀ config, tree.getLast? = some config → config.interfaces = [])

end UsbManager.Descriptor
