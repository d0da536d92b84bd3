/-!
# The built-in interface

The file that declares the canonical classes, line by line.
-/

namespace VectorFamily.Builtin

/-- What stands before the first class. -/
def interfaceStart : List String := [
  "#pragma once",
  "#include <iostream>",
  "#include <cstdint>",
  "#include <cmath>",
  "",
  "namespace util::math \x7b",
  "",
  "\t/*",
  "\t\tAccording to the MSVC C++ specification for Windows 10.",
  "\t\tBytes and the associated Range may differ with other specifications",
  "\t\tbut are also dependent on the compiler and platform.",
  "",
  "\t\tType : std::double_t",
  "\t\tBytes: 8",
  "\t\tRange: 1.7E +/- 308  precision: (15 digits)",
  "\t*/",
  ""]

/-- The class of arity two. -/
def interface2 : List String := [
  "\tclass Vector2d",
  "\t\x7b",
  "\tpublic:",
  "\t\tstd::double_t x, y;",
  "\tpublic:",
  "\t\tinline Vector2d(const std::double_t& x = 0.0, const std::double_t& y = 0.0) noexcept;",
  "\t\t// copy",
  "\t\tinline Vector2d(const Vector2d& other) noexcept;",
  "\t\tinline Vector2d& operator=(const Vector2d& other) noexcept;",
  "\t\t// move",
  "\t\tinline Vector2d(Vector2d&& other) noexcept;",
  "\t\tinline Vector2d& operator=(Vector2d&& other) noexcept;",
  "\t\t// assignment",
  "\t\tinline Vector2d& operator=(const std::double_t& number) noexcept;",
  "",
  "\t\t// math operator",
  "\t\tinline Vector2d operator +(const Vector2d& v) const noexcept;",
  "\t\tinline Vector2d operator -(const Vector2d& v) const noexcept;",
  "\t\tinline Vector2d operator *(const Vector2d& v) const noexcept;",
  "\t\tinline Vector2d operator /(const Vector2d& v) const noexcept;",
  "",
  "\t\tinline Vector2d operator +(const std::double_t& number) const noexcept;",
  "\t\tinline Vector2d operator -(const std::double_t& number) const noexcept;",
  "\t\tinline Vector2d operator *(const std::double_t& number) const noexcept;",
  "\t\tinline Vector2d operator /(const std::double_t& number) const noexcept;",
  "",
  "\t\t// increment / decrement",
  "\t\tinline Vector2d& operator++ () noexcept;\t\t// prefix increment",
  "\t\tinline Vector2d& operator-- () noexcept;\t\t// prefix decrement",
  "\t\tinline Vector2d  operator++ (int) noexcept;\t\t// postfix increment",
  "\t\tinline Vector2d  operator-- (int) noexcept;\t\t// postfix decrement",
  "",
  "\t\t// assignments",
  "\t\tinline Vector2d& operator+= (const Vector2d& right) noexcept;",
  "\t\tinline Vector2d& operator-= (const Vector2d& right) noexcept;",
  "\t\tinline Vector2d& operator*= (const Vector2d& right) noexcept;",
  "\t\tinline Vector2d& operator/= (const Vector2d& right) noexcept;",
  "",
  "\t\tinline Vector2d& operator+= (const std::double_t& number) noexcept;",
  "\t\tinline Vector2d& operator-= (const std::double_t& number) noexcept;",
  "\t\tinline Vector2d& operator*= (const std::double_t& number) noexcept;",
  "\t\tinline Vector2d& operator/= (const std::double_t& number) noexcept;",
  "",
  "\t\t// less than / greater than",
  "\t\tinline bool operator<\t(const Vector2d& other) const noexcept;",
  "\t\tinline bool operator<=  (const Vector2d& other) const noexcept;",
  "\t\tinline bool operator>\t(const Vector2d& other) const noexcept;",
  "\t\tinline bool operator>=  (const Vector2d& other) const noexcept;",
  "",
  "\t\tinline bool operator<\t(const std::double_t& number) const noexcept;",
  "\t\tinline bool operator<=  (const std::double_t& number) const noexcept;",
  "\t\tinline bool operator>\t(const std::double_t& number) const noexcept;",
  "\t\tinline bool operator>=  (const std::double_t& number) const noexcept;",
  "",
  "\t\t// equal / not equal",
  "\t\tinline bool operator==(const Vector2d& other) const noexcept;",
  "\t\tinline bool operator!=(const Vector2d& other) const noexcept;",
  "\t\tinline bool operator==(const std::double_t& number)  const noexcept;",
  "\t\tinline bool operator!=(const std::double_t& number)  const noexcept;",
  "",
  "\t\tinline constexpr std::uint8_t size() const noexcept;",
  "\t\tinline void reset(const std::double_t& stnd_value = 0.0) noexcept;",
  "\t\tinline std::double_t& operator[](const std::uint8_t& index) noexcept;",
  "\t\tinline std::double_t& at(const std::uint8_t& index) noexcept;",
  "\t\x7d;",
  "",
  ""]

def interface3 : List String := [
  "\tclass Vector3d",
  "\t\x7b",
  "\tpublic:",
  "\t\tstd::double_t x, y, z;",
  "\tpublic:",
  "\t\tinline Vector3d(const std::double_t& x = 0.0, const std::double_t& y = 0.0, const " ++
    "std::double_t& z = 0.0) noexcept;",
  "\t\t// copy",
  "\t\tinline Vector3d(const Vector3d& other) noexcept;",
  "\t\tinline Vector3d& operator=(const Vector3d& other) noexcept;",
  "\t\t// move",
  "\t\tinline Vector3d(Vector3d&& other) noexcept;",
  "\t\tinline Vector3d& operator=(Vector3d&& other) noexcept;",
  "\t\t// assignment",
  "\t\tinline Vector3d& operator=(const std::double_t& number) noexcept;",
  "",
  "\t\t// math operator",
  "\t\tinline Vector3d operator +(const Vector3d& v) const noexcept;",
  "\t\tinline Vector3d operator -(const Vector3d& v) const noexcept;",
  "\t\tinline Vector3d operator *(const Vector3d& v) const noexcept;",
  "\t\tinline Vector3d operator /(const Vector3d& v) const noexcept;",
  "",
  "\t\tinline Vector3d operator +(const std::double_t& number) const noexcept;",
  "\t\tinline Vector3d operator -(const std::double_t& number) const noexcept;",
  "\t\tinline Vector3d operator *(const std::double_t& number) const noexcept;",
  "\t\tinline Vector3d operator /(const std::double_t& number) const noexcept;",
  "",
  "\t\t// increment / decrement",
  "\t\tinline Vector3d& operator++ () noexcept;\t\t// prefix increment",
  "\t\tinline Vector3d& operator-- () noexcept;\t\t// prefix decrement",
  "\t\tinline Vector3d  operator++ (int) noexcept;\t\t// postfix increment",
  "\t\tinline Vector3d  operator-- (int) noexcept;\t\t// postfix decrement",
  "",
  "\t\t// assignments",
  "\t\tinline Vector3d& operator+= (const Vector3d& right) noexcept;",
  "\t\tinline Vector3d& operator-= (const Vector3d& right) noexcept;",
  "\t\tinline Vector3d& operator*= (const Vector3d& right) noexcept;",
  "\t\tinline Vector3d& operator/= (const Vector3d& right) noexcept;",
  "",
  "\t\tinline Vector3d& operator+= (const std::double_t& number) noexcept;",
  "\t\tinline Vector3d& operator-= (const std::double_t& number) noexcept;",
  "\t\tinline Vector3d& operator*= (const std::double_t& number) noexcept;",
  "\t\tinline Vector3d& operator/= (const std::double_t& number) noexcept;",
  "",
  "\t\t// less than / greater than",
  "\t\tinline bool operator<\t(const Vector3d& other) const noexcept;",
  "\t\tinline bool operator<=  (const Vector3d& other) const noexcept;",
  "\t\tinline bool operator>\t(const Vector3d& other) const noexcept;",
  "\t\tinline bool operator>=  (const Vector3d& other) const noexcept;",
  "\t\t ",
  "\t\tinline bool operator<\t(const std::double_t& number) const noexcept;",
  "\t\tinline bool operator<=  (const std::double_t& number) const noexcept;",
  "\t\tinline bool operator>\t(const std::double_t& number) const noexcept;",
  "\t\tinline bool operator>=  (const std::double_t& number) const noexcept;",
  "\t\t ",
  "\t\t// equal / not equal",
  "\t\tinline bool operator==(const Vector3d& other) const noexcept;",
  "\t\tinline bool operator!=(const Vector3d& other) const noexcept;",
  "\t\tinline bool operator==(const std::double_t& number)  const noexcept;",
  "\t\tinline bool operator!=(const std::double_t& number)  const noexcept;",
  "",
  "\t\tinline constexpr std::uint8_t size() const noexcept;",
  "\t\tinline void reset(const std::double_t& stnd_value = 0.0) noexcept;",
  "\t\tinline std::double_t& operator[](const std::uint8_t& index) noexcept;",
  "\t\tinline std::double_t& at(const std::uint8_t& index) noexcept;",
  "\t\x7d;",
  "",
  ""]

def interface4 : List String := [
  "\tclass Vector4d",
  "\t\x7b",
  "\tpublic:",
  "\t\tstd::double_t a, b, c, d;",
  "\tpublic:",
  "\t\tinline Vector4d(const std::double_t& a = 0.0, const std::double_t& b = 0.0, const " ++
    "std::double_t& c = 0.0, const std::double_t& d = 0.0) noexcept;",
  "\t\t// copy",
  "\t\tinline Vector4d(const Vector4d& other) noexcept;",
  "\t\tinline Vector4d& operator=(const Vector4d& other) noexcept;",
  "\t\t// move",
  "\t\tinline Vector4d(Vector4d&& other) noexcept;",
  "\t\tinline Vector4d& operator=(Vector4d&& other) noexcept;",
  "\t\t// assignment",
  "\t\tinline Vector4d& operator=(const std::double_t& number) noexcept;",
  "\t\t",
  "\t\t// math operator",
  "\t\tinline Vector4d operator +(const Vector4d& v) const noexcept;",
  "\t\tinline Vector4d operator -(const Vector4d& v) const noexcept;",
  "\t\tinline Vector4d operator *(const Vector4d& v) const noexcept;",
  "\t\tinline Vector4d operator /(const Vector4d& v) const noexcept;",
  "\t\t",
  "\t\tinline Vector4d operator +(const std::double_t& number) const noexcept;",
  "\t\tinline Vector4d operator -(const std::double_t& number) const noexcept;",
  "\t\tinline Vector4d operator *(const std::double_t& number) const noexcept;",
  "\t\tinline Vector4d operator /(const std::double_t& number) const noexcept;",
  "\t\t",
  "\t\t// increment / decrement",
  "\t\tinline Vector4d& operator++ () noexcept;\t\t// prefix increment",
  "\t\tinline Vector4d& operator-- () noexcept;\t\t// prefix decrement",
  "\t\tinline Vector4d  operator++ (int) noexcept;\t\t// postfix increment",
  "\t\tinline Vector4d  operator-- (int) noexcept;\t\t// postfix decrement",
  "\t\t",
  "\t\t// assignments",
  "\t\tinline Vector4d& operator+= (const Vector4d& right) noexcept;",
  "\t\tinline Vector4d& operator-= (const Vector4d& right) noexcept;",
  "\t\tinline Vector4d& operator*= (const Vector4d& right) noexcept;",
  "\t\tinline Vector4d& operator/= (const Vector4d& right) noexcept;",
  "\t\t",
  "\t\tinline Vector4d& operator+= (const std::double_t& number) noexcept;",
  "\t\tinline Vector4d& operator-= (const std::double_t& number) noexcept;",
  "\t\tinline Vector4d& operator*= (const std::double_t& number) noexcept;",
  "\t\tinline Vector4d& operator/= (const std::double_t& number) noexcept;",
  "\t\t",
  "\t\t// less than / greater than",
  "\t\tinline bool operator<\t(const Vector4d& other) const noexcept;",
  "\t\tinline bool operator<=  (const Vector4d& other) const noexcept;",
  "\t\tinline bool operator>\t(const Vector4d& other) const noexcept;",
  "\t\tinline bool operator>=  (const Vector4d& other) const noexcept;",
  "\t\t",
  "\t\tinline bool operator<\t(const std::double_t& number) const noexcept;",
  "\t\tinline bool operator<=  (const std::double_t& number) const noexcept;",
  "\t\tinline bool operator>\t(const std::double_t& number) const noexcept;",
  "\t\tinline bool operator>=  (const std::double_t& number) const noexcept;",
  "\t\t",
  "\t\t// equal / not equal",
  "\t\tinline bool operator==(const Vector4d& other) const noexcept;",
  "\t\tinline bool operator!=(const Vector4d& other) const noexcept;",
  "\t\tinline bool operator==(const std::double_t& number)  const noexcept;",
  "\t\tinline bool operator!=(const std::double_t& number)  const noexcept;",
  "\t\t",
  "\t\tinline constexpr std::uint8_t size() const noexcept;",
  "\t\tinline void reset(const std::double_t& stnd_value = 0.0) noexcept;",
  "\t\tinline std::double_t& operator[](const std::uint8_t& index) noexcept;",
  "\t\tinline std::double_t& at(const std::uint8_t& index) noexcept;",
  "\t\x7d;",
  "",
  ""]

def interface5 : List String := [
  "\tclass Vector5d",
  "\t\x7b",
  "\tpublic:",
  "\t\tstd::double_t a, b, c, d, e;",
  "\tpublic:",
  "\t\tinline Vector5d(const std::double_t& a = 0.0, const std::double_t& b = 0.0, const " ++
    "std::double_t& c = 0.0, const std::double_t& d = 0.0,",
  "\t\t\tconst std::double_t& e = 0.0) noexcept;",
  "\t\t// copy",
  "\t\tinline Vector5d(const Vector5d& other) noexcept;",
  "\t\tinline Vector5d& operator=(const Vector5d& other) noexcept;",
  "\t\t// move",
  "\t\tinline Vector5d(Vector5d&& other) noexcept;",
  "\t\tinline Vector5d& operator=(Vector5d&& other) noexcept;",
  "\t\t// assignment",
  "\t\tinline Vector5d& operator=(const std::double_t& number) noexcept;",
  "\t\t ",
  "\t\t// math operator",
  "\t\tinline Vector5d operator +(const Vector5d& v) const noexcept;",
  "\t\tinline Vector5d operator -(const Vector5d& v) const noexcept;",
  "\t\tinline Vector5d operator *(const Vector5d& v) const noexcept;",
  "\t\tinline Vector5d operator /(const Vector5d& v) const noexcept;",
  "\t\t",
  "\t\tinline Vector5d operator +(const std::double_t& number) const noexcept;",
  "\t\tinline Vector5d operator -(const std::double_t& number) const noexcept;",
  "\t\tinline Vector5d operator *(const std::double_t& number) const noexcept;",
  "\t\tinline Vector5d operator /(const std::double_t& number) const noexcept;",
  "\t\t",
  "\t\t// increment / decrement",
  "\t\tinline Vector5d& operator++ () noexcept;\t\t// prefix increment",
  "\t\tinline Vector5d& operator-- () noexcept;\t\t// prefix decrement",
  "\t\tinline Vector5d  operator++ (int) noexcept;\t\t// postfix increment",
  "\t\tinline Vector5d  operator-- (int) noexcept;\t\t// postfix decrement",
  "\t\t",
  "\t\t// assignments",
  "\t\tinline Vector5d& operator+= (const Vector5d& right) noexcept;",
  "\t\tinline Vector5d& operator-= (const Vector5d& right) noexcept;",
  "\t\tinline Vector5d& operator*= (const Vector5d& right) noexcept;",
  "\t\tinline Vector5d& operator/= (const Vector5d& right) noexcept;",
  "\t\t",
  "\t\tinline Vector5d& operator+= (const std::double_t& number) noexcept;",
  "\t\tinline Vector5d& operator-= (const std::double_t& number) noexcept;",
  "\t\tinline Vector5d& operator*= (const std::double_t& number) noexcept;",
  "\t\tinline Vector5d& operator/= (const std::double_t& number) noexcept;",
  "\t\t",
  "\t\t// less than / greater than",
  "\t\tinline bool operator<\t(const Vector5d& other) const noexcept;",
  "\t\tinline bool operator<=  (const Vector5d& other) const noexcept;",
  "\t\tinline bool operator>\t(const Vector5d& other) const noexcept;",
  "\t\tinline bool operator>=  (const Vector5d& other) const noexcept;",
  "\t\t",
  "\t\tinline bool operator<\t(const std::double_t& number) const noexcept;",
  "\t\tinline bool operator<=  (const std::double_t& number) const noexcept;",
  "\t\tinline bool operator>\t(const std::double_t& number) const noexcept;",
  "\t\tinline bool operator>=  (const std::double_t& number) const noexcept;",
  "\t\t",
  "\t\t// equal / not equal",
  "\t\tinline bool operator==(const Vector5d& other) const noexcept;",
  "\t\tinline bool operator!=(const Vector5d& other) const noexcept;",
  "\t\tinline bool operator==(const std::double_t& number)  const noexcept;",
  "\t\tinline bool operator!=(const std::double_t& number)  const noexcept;",
  "\t\t",
  "\t\tinline constexpr std::uint8_t size() const noexcept;",
  "\t\tinline void reset(const std::double_t& stnd_value = 0.0) noexcept;",
  "\t\tinline std::double_t& operator[](const std::uint8_t& index) noexcept;",
  "\t\tinline std::double_t& at(const std::uint8_t& index) noexcept;",
  "\t\x7d;",
  "",
  ""]

def interface6 : List String := [
  "\tclass Vector6d",
  "\t\x7b",
  "\tpublic:",
  "\t\tstd::double_t a, b, c, d, e, f;",
  "\tpublic:",
  "\t\tinline Vector6d(const std::double_t& a = 0.0, const std::double_t& b = 0.0, const " ++
    "std::double_t& c = 0.0, const std::double_t& d = 0.0,",
  "\t\t\tconst std::double_t& e = 0.0, const std::double_t& f = 0.0) noexcept;",
  "\t\t// copy",
  "\t\tinline Vector6d(const Vector6d& other) noexcept;",
  "\t\tinline Vector6d& operator=(const Vector6d& other) noexcept;",
  "\t\t// move",
  "\t\tinline Vector6d(Vector6d&& other) noexcept;",
  "\t\tinline Vector6d& operator=(Vector6d&& other) noexcept;",
  "\t\t// assignment",
  "\t\tinline Vector6d& operator=(const std::double_t& number) noexcept;",
  "\t\t",
  "\t\t// math operator",
  "\t\tinline Vector6d operator +(const Vector6d& v) const noexcept;",
  "\t\tinline Vector6d operator -(const Vector6d& v) const noexcept;",
  "\t\tinline Vector6d operator *(const Vector6d& v) const noexcept;",
  "\t\tinline Vector6d operator /(const Vector6d& v) const noexcept;",
  "\t\t",
  "\t\tinline Vector6d operator +(const std::double_t& number) const noexcept;",
  "\t\tinline Vector6d operator -(const std::double_t& number) const noexcept;",
  "\t\tinline Vector6d operator *(const std::double_t& number) const noexcept;",
  "\t\tinline Vector6d operator /(const std::double_t& number) const noexcept;",
  "\t\t",
  "\t\t// increment / decrement",
  "\t\tinline Vector6d& operator++ () noexcept;\t\t// prefix increment",
  "\t\tinline Vector6d& operator-- () noexcept;\t\t// prefix decrement",
  "\t\tinline Vector6d  operator++ (int) noexcept;\t\t// postfix increment",
  "\t\tinline Vector6d  operator-- (int) noexcept;\t\t// postfix decrement",
  "\t\t",
  "\t\t// assignments",
  "\t\tinline Vector6d& operator+= (const Vector6d& right) noexcept;",
  "\t\tinline Vector6d& operator-= (const Vector6d& right) noexcept;",
  "\t\tinline Vector6d& operator*= (const Vector6d& right) noexcept;",
  "\t\tinline Vector6d& operator/= (const Vector6d& right) noexcept;",
  "\t\t",
  "\t\tinline Vector6d& operator+= (const std::double_t& number) noexcept;",
  "\t\tinline Vector6d& operator-= (const std::double_t& number) noexcept;",
  "\t\tinline Vector6d& operator*= (const std::double_t& number) noexcept;",
  "\t\tinline Vector6d& operator/= (const std::double_t& number) noexcept;",
  "\t\t",
  "\t\t// less than / greater than",
  "\t\tinline bool operator<= (const Vector6d& other) const noexcept;",
  "\t\tinline bool operator<  (const Vector6d& other) const noexcept;",
  "\t\tinline bool operator>  (const Vector6d& other) const noexcept;",
  "\t\tinline bool operator>= (const Vector6d& other) const noexcept;",
  "\t\t",
  "\t\tinline bool operator<  (const std::double_t& number) const noexcept;",
  "\t\tinline bool operator<= (const std::double_t& number) const noexcept;",
  "\t\tinline bool operator>  (const std::double_t& number) const noexcept;",
  "\t\tinline bool operator>= (const std::double_t& number) const noexcept;",
  "\t\t",
  "\t\t// equal / not equal",
  "\t\tinline bool operator==(const Vector6d& other) const noexcept;",
  "\t\tinline bool operator!=(const Vector6d& other) const noexcept;",
  "\t\tinline bool operator==(const std::double_t& number)  const noexcept;",
  "\t\tinline bool operator!=(const std::double_t& number)  const noexcept;",
  "\t\t",
  "\t\tinline constexpr std::uint8_t size() const noexcept;",
  "\t\tinline void reset(const std::double_t& stnd_value = 0.0) noexcept;",
  "\t\tinline std::double_t& operator[](const std::uint8_t& index) noexcept;",
  "\t\tinline std::double_t& at(const std::uint8_t& index) noexcept;",
  "\t\x7d;",
  "",
  ""]

def interface7 : List String := [
  "\tclass Vector7d",
  "\t\x7b",
  "\tpublic:",
  "\t\tstd::double_t a, b, c, d, e, f, g;",
  "\tpublic:",
  "\t\tinline Vector7d(const std::double_t& a = 0.0, const std::double_t& b = 0.0, const " ++
    "std::double_t& c = 0.0, const std::double_t& d = 0.0,",
  "\t\t\tconst std::double_t& e = 0.0, const std::double_t& f = 0.0, const std::double_t& g = " ++
    "0.0) noexcept;",
  "\t\t// copy",
  "\t\tinline Vector7d(const Vector7d& other) noexcept;",
  "\t\tinline Vector7d& operator=(const Vector7d& other) noexcept;",
  "\t\t// move",
  "\t\tinline Vector7d(Vector7d&& other) noexcept;",
  "\t\tinline Vector7d& operator=(Vector7d&& other) noexcept;",
  "\t\t// assignment",
  "\t\tinline Vector7d& operator=(const std::double_t& number) noexcept;",
  "\t\t",
  "\t\t// math operator",
  "\t\tinline Vector7d operator +(const Vector7d& v) const noexcept;",
  "\t\tinline Vector7d operator -(const Vector7d& v) const noexcept;",
  "\t\tinline Vector7d operator *(const Vector7d& v) const noexcept;",
  "\t\tinline Vector7d operator /(const Vector7d& v) const noexcept;",
  "\t\t",
  "\t\tinline Vector7d operator +(const std::double_t& number) const noexcept;",
  "\t\tinline Vector7d operator -(const std::double_t& number) const noexcept;",
  "\t\tinline Vector7d operator *(const std::double_t& number) const noexcept;",
  "\t\tinline Vector7d operator /(const std::double_t& number) const noexcept;",
  "\t\t",
  "\t\t// increment / decrement",
  "\t\tinline Vector7d& operator++ () noexcept;\t\t// prefix increment",
  "\t\tinline Vector7d& operator-- () noexcept;\t\t// prefix decrement",
  "\t\tinline Vector7d  operator++ (int) noexcept;\t\t// postfix increment",
  "\t\tinline Vector7d  operator-- (int) noexcept;\t\t// postfix decrement",
  "\t\t",
  "\t\t// assignments",
  "\t\tinline Vector7d& operator+= (const Vector7d& right) noexcept;",
  "\t\tinline Vector7d& operator-= (const Vector7d& right) noexcept;",
  "\t\tinline Vector7d& operator*= (const Vector7d& right) noexcept;",
  "\t\tinline Vector7d& operator/= (const Vector7d& right) noexcept;",
  "\t\t",
  "\t\tinline Vector7d& operator+= (const std::double_t& number) noexcept;",
  "\t\tinline Vector7d& operator-= (const std::double_t& number) noexcept;",
  "\t\tinline Vector7d& operator*= (const std::double_t& number) noexcept;",
  "\t\tinline Vector7d& operator/= (const std::double_t& number) noexcept;",
  "\t\t",
  "\t\t// less than / greater than",
  "\t\tinline bool operator<= (const Vector7d& other) const noexcept;",
  "\t\tinline bool operator<  (const Vector7d& other) const noexcept;",
  "\t\tinline bool operator>  (const Vector7d& other) const noexcept;",
  "\t\tinline bool operator>= (const Vector7d& other) const noexcept;",
  "\t\t",
  "\t\tinline bool operator<  (const std::double_t& number) const noexcept;",
  "\t\tinline bool operator<= (const std::double_t& number) const noexcept;",
  "\t\tinline bool operator>  (const std::double_t& number) const noexcept;",
  "\t\tinline bool operator>= (const std::double_t& number) const noexcept;",
  "\t\t",
  "\t\t// equal / not equal",
  "\t\tinline bool operator==(const Vector7d& other) const noexcept;",
  "\t\tinline bool operator!=(const Vector7d& other) const noexcept;",
  "\t\tinline bool operator==(const std::double_t& number)  const noexcept;",
  "\t\tinline bool operator!=(const std::double_t& number)  const noexcept;",
  "\t\t",
  "\t\tinline constexpr std::uint8_t size() const noexcept;",
  "\t\tinline void reset(const std::double_t& stnd_value = 0.0) noexcept;",
  "\t\tinline std::double_t& operator[](const std::uint8_t& index) noexcept;",
  "\t\tinline std::double_t& at(const std::uint8_t& index) noexcept;",
  "\t\x7d;",
  "",
  ""]

def interface8 : List String := [
  "\tclass Vector8d",
  "\t\x7b",
  "\tpublic:",
  "\t\tstd::double_t a, b, c, d, e, f, g, h;",
  "\tpublic:",
  "\t\tinline Vector8d(const std::double_t& a = 0.0, const std::double_t& b = 0.0, const " ++
    "std::double_t& c = 0.0, const std::double_t& d = 0.0,",
  "\t\t\tconst std::double_t& e = 0.0, const std::double_t& f = 0.0, const std::double_t& g = " ++
    "0.0, const std::double_t& h = 0.0) noexcept;",
  "\t\t// copy",
  "\t\tinline Vector8d(const Vector8d& other) noexcept;",
  "\t\tinline Vector8d& operator=(const Vector8d& other) noexcept;",
  "\t\t// move",
  "\t\tinline Vector8d(Vector8d&& other) noexcept;",
  "\t\tinline Vector8d& operator=(Vector8d&& other) noexcept;",
  "\t\t// assignment",
  "\t\tinline Vector8d& operator=(const std::double_t& number) noexcept;",
  "\t\t",
  "\t\t// math operator",
  "\t\tinline Vector8d operator +(const Vector8d& v) const noexcept;",
  "\t\tinline Vector8d operator -(const Vector8d& v) const noexcept;",
  "\t\tinline Vector8d operator *(const Vector8d& v) const noexcept;",
  "\t\tinline Vector8d operator /(const Vector8d& v) const noexcept;",
  "\t\t",
  "\t\tinline Vector8d operator +(const std::double_t& number) const noexcept;",
  "\t\tinline Vector8d operator -(const std::double_t& number) const noexcept;",
  "\t\tinline Vector8d operator *(const std::double_t& number) const noexcept;",
  "\t\tinline Vector8d operator /(const std::double_t& number) const noexcept;",
  "\t\t",
  "\t\t// increment / decrement",
  "\t\tinline Vector8d& operator++ () noexcept;\t\t// prefix increment",
  "\t\tinline Vector8d& operator-- () noexcept;\t\t// prefix decrement",
  "\t\tinline Vector8d  operator++ (int) noexcept;\t\t// postfix increment",
  "\t\tinline Vector8d  operator-- (int) noexcept;\t\t// postfix decrement",
  "\t\t",
  "\t\t// assignments",
  "\t\tinline Vector8d& operator+= (const Vector8d& right) noexcept;",
  "\t\tinline Vector8d& operator-= (const Vector8d& right) noexcept;",
  "\t\tinline Vector8d& operator*= (const Vector8d& right) noexcept;",
  "\t\tinline Vector8d& operator/= (const Vector8d& right) noexcept;",
  "\t\t",
  "\t\tinline Vector8d& operator+= (const std::double_t& number) noexcept;",
  "\t\tinline Vector8d& operator-= (const std::double_t& number) noexcept;",
  "\t\tinline Vector8d& operator*= (const std::double_t& number) noexcept;",
  "\t\tinline Vector8d& operator/= (const std::double_t& number) noexcept;",
  "\t\t",
  "\t\t// less than / greater than",
  "\t\tinline bool operator<= (const Vector8d& other) const noexcept;",
  "\t\tinline bool operator<  (const Vector8d& other) const noexcept;",
  "\t\tinline bool operator>  (const Vector8d& other) const noexcept;",
  "\t\tinline bool operator>= (const Vector8d& other) const noexcept;",
  "\t\t",
  "\t\tinline bool operator<  (const std::double_t& number) const noexcept;",
  "\t\tinline bool operator<= (const std::double_t& number) const noexcept;",
  "\t\tinline bool operator>  (const std::double_t& number) const noexcept;",
  "\t\tinline bool operator>= (const std::double_t& number) const noexcept;",
  "\t\t",
  "\t\t// equal / not equal",
  "\t\tinline bool operator==(const Vector8d& other) const noexcept;",
  "\t\tinline bool operator!=(const Vector8d& other) const noexcept;",
  "\t\tinline bool operator==(const std::double_t& number)  const noexcept;",
  "\t\tinline bool operator!=(const std::double_t& number)  const noexcept;",
  "\t\t",
  "\t\tinline constexpr std::uint8_t size() const noexcept;",
  "\t\tinline void reset(const std::double_t& stnd_value = 0.0) noexcept;",
  "\t\tinline std::double_t& operator[](const std::uint8_t& index) noexcept;",
  "\t\tinline std::double_t& at(const std::uint8_t& index) noexcept;",
  "\t\x7d;",
  "",
  ""]

def interface9 : List String := [
  "\tclass Vector9d",
  "\t\x7b",
  "\tpublic:",
  "\t\tstd::double_t a, b, c, d, e, f, g, h, i;",
  "\tpublic:",
  "\t\tinline Vector9d(const std::double_t& a = 0.0, const std::double_t& b = 0.0, const " ++
    "std::double_t& c = 0.0, const std::double_t& d = 0.0,",
  "\t\t\tconst std::double_t& e = 0.0, const std::double_t& f = 0.0, const std::double_t& g = " ++
    "0.0, const std::double_t& h = 0.0,",
  "\t\t\tconst std::double_t& i = 0.0) noexcept;",
  "\t\t// copy",
  "\t\tinline Vector9d(const Vector9d& other) noexcept;",
  "\t\tinline Vector9d& operator=(const Vector9d& other) noexcept;",
  "\t\t// move",
  "\t\tinline Vector9d(Vector9d&& other) noexcept;",
  "\t\tinline Vector9d& operator=(Vector9d&& other) noexcept;",
  "\t\t// assignment",
  "\t\tinline Vector9d& operator=(const std::double_t& number) noexcept;",
  "\t\t",
  "\t\t// math operator",
  "\t\tinline Vector9d operator +(const Vector9d& v) const noexcept;",
  "\t\tinline Vector9d operator -(const Vector9d& v) const noexcept;",
  "\t\tinline Vector9d operator *(const Vector9d& v) const noexcept;",
  "\t\tinline Vector9d operator /(const Vector9d& v) const noexcept;",
  "\t\t",
  "\t\tinline Vector9d operator +(const std::double_t& number) const noexcept;",
  "\t\tinline Vector9d operator -(const std::double_t& number) const noexcept;",
  "\t\tinline Vector9d operator *(const std::double_t& number) const noexcept;",
  "\t\tinline Vector9d operator /(const std::double_t& number) const noexcept;",
  "\t\t",
  "\t\t// increment / decrement",
  "\t\tinline Vector9d& operator++ () noexcept;\t\t// prefix increment",
  "\t\tinline Vector9d& operator-- () noexcept;\t\t// prefix decrement",
  "\t\tinline Vector9d  operator++ (int) noexcept;\t\t// postfix increment",
  "\t\tinline Vector9d  operator-- (int) noexcept;\t\t// postfix decrement",
  "\t\t",
  "\t\t// assignments",
  "\t\tinline Vector9d& operator+= (const Vector9d& right) noexcept;",
  "\t\tinline Vector9d& operator-= (const Vector9d& right) noexcept;",
  "\t\tinline Vector9d& operator*= (const Vector9d& right) noexcept;",
  "\t\tinline Vector9d& operator/= (const Vector9d& right) noexcept;",
  "\t\t",
  "\t\tinline Vector9d& operator+= (const std::double_t& number) noexcept;",
  "\t\tinline Vector9d& operator-= (const std::double_t& number) noexcept;",
  "\t\tinline Vector9d& operator*= (const std::double_t& number) noexcept;",
  "\t\tinline Vector9d& operator/= (const std::double_t& number) noexcept;",
  "\t\t",
  "\t\t// less than / greater than",
  "\t\tinline bool operator<= (const Vector9d& other) const noexcept;",
  "\t\tinline bool operator<  (const Vector9d& other) const noexcept;",
  "\t\tinline bool operator>  (const Vector9d& other) const noexcept;",
  "\t\tinline bool operator>= (const Vector9d& other) const noexcept;",
  "\t\t",
  "\t\tinline bool operator<  (const std::double_t& number) const noexcept;",
  "\t\tinline bool operator<= (const std::double_t& number) const noexcept;",
  "\t\tinline bool operator>  (const std::double_t& number) const noexcept;",
  "\t\tinline bool operator>= (const std::double_t& number) const noexcept;",
  "\t\t",
  "\t\t// equal / not equal",
  "\t\tinline bool operator==(const Vector9d& other) const noexcept;",
  "\t\tinline bool operator!=(const Vector9d& other) const noexcept;",
  "\t\tinline bool operator==(const std::double_t& number)  const noexcept;",
  "\t\tinline bool operator!=(const std::double_t& number)  const noexcept;",
  "\t\t",
  "\t\tinline constexpr std::uint8_t size() const noexcept;",
  "\t\tinline void reset(const std::double_t& stnd_value = 0.0) noexcept;",
  "\t\tinline std::double_t& operator[](const std::uint8_t& index) noexcept;",
  "\t\tinline std::double_t& at(const std::uint8_t& index) noexcept;",
  "\t\x7d;",
  "",
  ""]

def interface10 : List String := [
  "\tclass Vector10d",
  "\t\x7b",
  "\tpublic:",
  "\t\tstd::double_t a, b, c, d, e, f, g, h, i, j;",
  "\tpublic:",
  "\t\tinline Vector10d(const std::double_t& a = 0.0, const std::double_t& b = 0.0, const " ++
    "std::double_t& c = 0.0, const std::double_t& d = 0.0,",
  "\t\t\tconst std::double_t& e = 0.0, const std::double_t& f = 0.0, const std::double_t& g = " ++
    "0.0, const std::double_t& h = 0.0,",
  "\t\t\tconst std::double_t& i = 0.0, const std::double_t& j = 0.0) noexcept;",
  "\t\t// copy",
  "\t\tinline Vector10d(const Vector10d& other) noexcept;",
  "\t\tinline Vector10d& operator=(const Vector10d& other) noexcept;",
  "\t\t// move",
  "\t\tinline Vector10d(Vector10d&& other) noexcept;",
  "\t\tinline Vector10d& operator=(Vector10d&& other) noexcept;",
  "\t\t// assignment",
  "\t\tinline Vector10d& operator=(const std::double_t& number) noexcept;",
  "\t\t",
  "\t\t// math operator",
  "\t\tinline Vector10d operator +(const Vector10d& v) const noexcept;",
  "\t\tinline Vector10d operator -(const Vector10d& v) const noexcept;",
  "\t\tinline Vector10d operator *(const Vector10d& v) const noexcept;",
  "\t\tinline Vector10d operator /(const Vector10d& v) const noexcept;",
  "\t\t",
  "\t\tinline Vector10d operator +(const std::double_t& number) const noexcept;",
  "\t\tinline Vector10d operator -(const std::double_t& number) const noexcept;",
  "\t\tinline Vector10d operator *(const std::double_t& number) const noexcept;",
  "\t\tinline Vector10d operator /(const std::double_t& number) const noexcept;",
  "\t\t",
  "\t\t// increment / decrement",
  "\t\tinline Vector10d& operator++ () noexcept;\t\t// prefix increment",
  "\t\tinline Vector10d& operator-- () noexcept;\t\t// prefix decrement",
  "\t\tinline Vector10d  operator++ (int) noexcept;\t// postfix increment",
  "\t\tinline Vector10d  operator-- (int) noexcept;\t// postfix decrement",
  "\t\t",
  "\t\t// assignments",
  "\t\tinline Vector10d& operator+= (const Vector10d& right) noexcept;",
  "\t\tinline Vector10d& operator-= (const Vector10d& right) noexcept;",
  "\t\tinline Vector10d& operator*= (const Vector10d& right) noexcept;",
  "\t\tinline Vector10d& operator/= (const Vector10d& right) noexcept;",
  "\t\t",
  "\t\tinline Vector10d& operator+= (const std::double_t& number) noexcept;",
  "\t\tinline Vector10d& operator-= (const std::double_t& number) noexcept;",
  "\t\tinline Vector10d& operator*= (const std::double_t& number) noexcept;",
  "\t\tinline Vector10d& operator/= (const std::double_t& number) noexcept;",
  "\t\t",
  "\t\t// less than / greater than",
  "\t\tinline bool operator<= (const Vector10d& other) const noexcept;",
  "\t\tinline bool operator<  (const Vector10d& other) const noexcept;",
  "\t\tinline bool operator>  (const Vector10d& other) const noexcept;",
  "\t\tinline bool operator>= (const Vector10d& other) const noexcept;",
  "",
  "\t\tinline bool operator<  (const std::double_t& number) const noexcept;",
  "\t\tinline bool operator<= (const std::double_t& number) const noexcept;",
  "\t\tinline bool operator>  (const std::double_t& number) const noexcept;",
  "\t\tinline bool operator>= (const std::double_t& number) const noexcept;",
  "\t\t",
  "\t\t// equal / not equal",
  "\t\tinline bool operator==(const Vector10d& other) const noexcept;",
  "\t\tinline bool operator!=(const Vector10d& other) const noexcept;",
  "\t\tinline bool operator==(const std::double_t& number)   const noexcept;",
  "\t\tinline bool operator!=(const std::double_t& number)   const noexcept;",
  "\t\t",
  "\t\tinline constexpr std::uint8_t size() const noexcept;",
  "\t\tinline void reset(const std::double_t& stnd_value = 0.0) noexcept;",
  "\t\tinline std::double_t& operator[](const std::uint8_t& index) noexcept;",
  "\t\tinline std::double_t& at(const std::uint8_t& index) noexcept;",
  "\t\x7d;",
  "",
  ""]

/-- The stream operators and the end of the file. -/
def interfaceHelpers : List String := [
  "\t// overloads for the << operator",
  "\tinline static std::ostream& operator<<(std::ostream& os, const Vector2d& v) noexcept",
  "\t\x7b",
  "\t\tos << \"x: \" << v.x << \" | y: \" << v.y;",
  "\t\treturn os;",
  "\t\x7d",
  "",
  "\tinline static std::ostream& operator<<(std::ostream& os, const Vector3d& v) noexcept",
  "\t\x7b",
  "\t\tos << \"x: \" << v.x << \" | y: \" << v.y << \" | z: \" << v.z;",
  "\t\treturn os;",
  "\t\x7d",
  "",
  "\tinline static std::ostream& operator<<(std::ostream& os, const Vector4d& v) noexcept",
  "\t\x7b",
  "\t\tos << \"a: \" << v.a << \" | b: \" << v.b << \" | c: \" << v.c << \" | d: \" << v.d;",
  "\t\treturn os;",
  "\t\x7d",
  "",
  "\tinline static std::ostream& operator<<(std::ostream& os, const Vector5d& v) noexcept",
  "\t\x7b",
  "\t\tos << \"a: \" << v.a << \" | b: \" << v.b << \" | c: \" << v.c << \" | d: \" << v.d << " ++
    "\" | e: \" << v.e;",
  "\t\treturn os;",
  "\t\x7d",
  "",
  "\tinline static std::ostream& operator<<(std::ostream& os, const Vector6d& v) noexcept",
  "\t\x7b",
  "\t\tos << \"a: \" << v.a << \" | b: \" << v.b << \" | c: \" << v.c << \" | d: \" << v.d << " ++
    "\" | e: \" << v.e << \" | f: \" << v.f;",
  "\t\treturn os;",
  "\t\x7d",
  "",
  "\tinline static std::ostream& operator<<(std::ostream& os, const Vector7d& v) noexcept",
  "\t\x7b",
  "\t\tos << \"a: \" << v.a << \" | b: \" << v.b << \" | c: \" << v.c << \" | d: \" << v.d << " ++
    "\" | e: \" << v.e << \" | f: \" << v.f << \" | g: \" << v.g;",
  "\t\treturn os;",
  "\t\x7d",
  "",
  "\tinline static std::ostream& operator<<(std::ostream& os, const Vector8d& v) noexcept",
  "\t\x7b",
  "\t\tos << \"a: \" << v.a << \" | b: \" << v.b << \" | c: \" << v.c << \" | d: \" << v.d << " ++
    "\" | e: \" << v.e << \" | f: \" << v.f << \" | g: \" << v.g << \" | h: \" << v.h;",
  "\t\treturn os;",
  "\t\x7d",
  "",
  "\tinline static std::ostream& operator<<(std::ostream& os, const Vector9d& v) noexcept",
  "\t\x7b",
  "\t\tos << \"a: \" << v.a << \" | b: \" << v.b << \" | c: \" << v.c << \" | d: \" << v.d << " ++
    "\" | e: \" << v.e << \" | f: \" << v.f << \" | g: \" << v.g << \" | h: \" << v.h << \" | " ++
    "i: \" << v.i;",
  "\t\treturn os;",
  "\t\x7d",
  "",
  "\tinline static std::ostream& operator<<(std::ostream& os, const Vector10d& v) noexcept",
  "\t\x7b",
  "\t\tos << \"a: \" << v.a << \" | b: \" << v.b << \" | c: \" << v.c << \" | d: \" << v.d << " ++
    "\" | e: \" << v.e << \" | f: \" << v.f << \" | g: \" << v.g << \" | h: \" << v.h << \" | " ++
    "i: \" << v.i << \" | j: \" << v.j;",
  "\t\treturn os;",
  "\t\x7d",
  "\t// End",
  "\x7d"]

/-- The lines of the interface. -/
def interfaceLines : List String :=
  interfaceStart ++ interface2 ++ interface3 ++ interface4 ++
    interface5 ++ interface6 ++ interface7 ++ interface8 ++
    interface9 ++ interface10 ++ interfaceHelpers

def interface : String := "\n".intercalate interfaceLines

end VectorFamily.Builtin
