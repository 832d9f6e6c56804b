import SorobanDeploy.Text.Charset.Cells

/-!
# What the wider Chinese rows add

The cells are numbered by their two octets, and the characters of four octets in their order.
-/

namespace SorobanDeploy.Text.Charset

/-- The signs that the wider rows add to the Chinese square, and two that they change. -/
def gbkSymbols : Table := Table.ofText
  "A1A4>B7 A1AA>2014 A2A1-A2AA>2170 A6E0-A6E1>FE35 A6E2-A6E3>FE39 A6E4-A6E5>FE3F A6E6-A6E7>FE3D
  A6E8-A6EB>FE41 A6EE-A6EF>FE3B A6F0-A6F1>FE37 A6F2>FE31 A6F4-A6F5>FE33 A840-A841>2CA A842>2D9
  A843>2013 A844>2015 A845>2025 A846>2035 A847>2105 A848>2109 A849-A84C>2196 A84D>2215 A84E>221F
  A84F>2223 A850>2252 A851-A852>2266 A853>22BF A854-A877>2550 A878-A87E>2581 A880-A887>2588
  A888-A88A>2593 A88B-A88C>25BC A88D-A890>25E2 A891>2609 A892>2295 A893>3012 A894-A895>301D
  A8BB>251 A8BD>144 A8BE>148 A8C0>261 A940-A948>3021 A949>32A3 A94A-A94B>338E A94C-A94E>339C
  A94F>33A1 A950>33C4 A951>33CE A952-A953>33D1 A954>33D5 A955>FE30 A956>FFE2 A957>FFE4 A959>2121
  A95A>3231 A95C>2010 A960>30FC A961-A962>309B A963-A964>30FD A965>3006 A966-A967>309D
  A968-A971>FE49 A972-A975>FE54 A976-A97E>FE59 A980-A984>FE62 A985-A988>FE68 A996>3007"

/-- The signs and reserved characters that the widest rows add. -/
def gb18030Symbols : Table := Table.ofText
  "A140-A17E>E4C6 A180-A1A0>E505 A240-A27E>E526 A280-A2A0>E565 A2AB-A2B0>E766 A2E3>20AC A2E4>E76D
  A2EF-A2F0>E76E A2FD-A2FE>E770 A340-A37E>E586 A380-A3A0>E5C5 A440-A47E>E5E6 A480-A4A0>E625
  A4F4-A4FE>E772 A540-A57E>E646 A580-A5A0>E685 A5F7-A5FE>E77D A640-A67E>E6A6 A680-A6A0>E6E5
  A6B9-A6C0>E785 A6D9-A6DF>E78D A6EC-A6ED>E794 A6F3>E796 A6F6-A6FE>E797 A740-A77E>E706
  A780-A7A0>E745 A7C2-A7D0>E7A0 A7F2-A7FE>E7AF A896-A8A0>E7BC A8BC>E7C7 A8BF>1F9 A8C1-A8C4>E7C9
  A8EA-A8FE>E7CD A958>E7E2 A95B>E7E3 A95D-A95F>E7E4 A989>303E A98A-A995>2FF0 A997-A9A3>E7F4
  A9F0-A9FE>E801 AAA1-AAFE>E000 ABA1-ABFE>E05E ACA1-ACFE>E0BC ADA1-ADFE>E11A AEA1-AEFE>E178
  AFA1-AFFE>E1D6 D7FA-D7FE>E810 F8A1-F8FE>E234 F9A1-F9FE>E292 FAA1-FAFE>E2F0 FBA1-FBFE>E34E
  FCA1-FCFE>E3AC FDA1-FDFE>E40A FE50>2E81 FE51-FE53>E816 FE54>2E84 FE55>3473 FE56>3447 FE57>2E88
  FE58>2E8B FE59>E81E FE5A>359E FE5B>361A FE5C>360E FE5D>2E8C FE5E>2E97 FE5F>396E FE60>3918
  FE61>E826 FE62>39CF FE63>39DF FE64>3A73 FE65>39D0 FE66-FE67>E82B FE68>3B4E FE69>3C6E FE6A>3CE0
  FE6B>2EA7 FE6C-FE6D>E831 FE6E>2EAA FE6F>4056 FE70>415F FE71>2EAE FE72>4337 FE73>2EB3
  FE74-FE75>2EB6 FE76>E83B FE77>43B1 FE78>43AC FE79>2EBB FE7A>43DD FE7B>44D6 FE7C>4661 FE7D>464C
  FE7E>E843 FE80>4723 FE81>4729 FE82>477C FE83>478D FE84>2ECA FE85>4947 FE86>497A FE87>497D
  FE88-FE89>4982 FE8A-FE8B>4985 FE8C>499F FE8D>499B FE8E>49B7 FE8F>49B6 FE90-FE91>E854 FE92>4CA3
  FE93-FE95>4C9F FE96>4C77 FE97>4CA2 FE98-FE9E>4D13 FE9F>4DAE FEA0>E864 FEA1-FEFE>E468"

/-- The characters of four octets up to U+FFFF: all that have no form of two octets, in order. -/
def fourOctetRuns : Table := Table.ofText
  "0-23>80 24-25>A5 26-2C>A9 2D-31>B2 32-50>B8 51-58>D8 59-5E>E2 5F>EB 60-63>EE 64-66>F4 67>F8
  68>FB 69-6C>FD 6D-7D>102 7E-84>114 85-93>11C 94-AB>12C AC-AE>145 AF-B2>149 B3-CF>14E D0-131>16C
  132>1CF 133>1D1 134>1D3 135>1D5 136>1D7 137>1D9 138>1DB 139-154>1DD 155-1AB>1FA 1AC-1BA>252
  1BB-21F>262 220>2C8 221-22D>2CC 22E-2E4>2DA 2E5>3A2 2E6-2EC>3AA 2ED>3C2 2EE-324>3CA 325-332>402
  333>450 334-1EF1>452 1EF2-1EF3>2011 1EF4>2017 1EF5-1EF6>201A 1EF7-1EFD>201E 1EFE-1F06>2027
  1F07>2031 1F08>2034 1F09-1F0D>2036 1F0E-1F7D>203C 1F7E-1FD3>20AD 1FD4>2104 1FD5-1FD7>2106
  1FD8-1FE3>210A 1FE4-1FED>2117 1FEE-202B>2122 202C-202F>216C 2030-2045>217A 2046-2047>2194
  2048-20B5>219A 20B6-20BB>2209 20BC>2210 20BD-20BF>2212 20C0-20C3>2216 20C4-20C5>221B
  20C6-20C7>2221 20C8>2224 20C9>2226 20CA-20CB>222C 20CC-20D0>222F 20D1-20D5>2238 20D6-20DF>223E
  20E0-20E2>2249 20E3-20E7>224D 20E8-20F4>2253 20F5-20F6>2262 20F7-20FC>2268 20FD-2121>2270
  2122-2124>2296 2125-212F>229A 2130-2148>22A6 2149-219A>22C0 219B-22E7>2313 22E8-22F1>246A
  22F2-2355>249C 2356-2359>254C 235A-2366>2574 2367-2369>2590 236A-2373>2596 2374-2383>25A2
  2384-238B>25B4 238C-2393>25BE 2394-2396>25C8 2397-2398>25CC 2399-23AA>25D0 23AB-23C9>25E6
  23CA-23CB>2607 23CC-2401>260A 2402>2641 2403-2C40>2643 2C41-2C42>2E82 2C43-2C45>2E85
  2C46-2C47>2E89 2C48-2C51>2E8D 2C52-2C60>2E98 2C61-2C62>2EA8 2C63-2C65>2EAB 2C66-2C69>2EAF
  2C6A-2C6B>2EB4 2C6C-2C6E>2EB8 2C6F-2C7C>2EBC 2C7D-2DA1>2ECB 2DA2-2DA5>2FFC 2DA6>3004
  2DA7-2DAB>3018 2DAC-2DAD>301F 2DAE-2DC1>302A 2DC2-2DC3>303F 2DC4-2DCA>3094 2DCB-2DCC>309F
  2DCD-2DD1>30F7 2DD2-2DD7>30FF 2DD8-2ECD>312A 2ECE-2ED4>322A 2ED5-2F45>3232 2F46-302F>32A4
  3030-303B>3390 303C-303D>339F 303E-305F>33A2 3060-3068>33C5 3069-306A>33CF 306B-306C>33D3
  306D-30DD>33D6 30DE-3108>3448 3109-3232>3474 3233-32A1>359F 32A2-32AC>360F 32AD-35A9>361B
  35AA-35FE>3919 35FF-365E>396F 365F-366C>39D1 366D-36FF>39E0 3700-37D9>3A74 37DA-38F8>3B4F
  38F9-3969>3C6F 396A-3CDE>3CE1 3CDF-3DE6>4057 3DE7-3FBD>4160 3FBE-4031>4338 4032-4035>43AD
  4036-4060>43B2 4061-4158>43DE 4159-42CD>44D7 42CE-42E1>464D 42E2-43A2>4662 43A3-43A7>4724
  43A8-43F9>472A 43FA-4409>477D 440A-45C2>478E 45C3-45F4>4948 45F5-45F6>497B 45F7-45FA>497E
  45FB>4984 45FC-460F>4987 4610-4612>499C 4613-4628>49A0 4629-48E7>49B8 48E8-490E>4C78
  490F-497D>4CA4 497E-4A11>4D1A 4A12-4A62>4DAF 4A63-82BC>9FA6 82BD>E76C 82BE>E7C8 82BF-82CB>E7E7
  82CC>E815 82CD-82D1>E819 82D2-82D8>E81F 82D9-82DC>E827 82DD-82E0>E82D 82E1-82E8>E833
  82E9-82EF>E83C 82F0-82FF>E844 8300-830D>E856 830E-93D4>E865 93D5-9420>F92D 9421-943B>F97A
  943C-948C>F996 948D-9495>F9E8 9496-94AF>F9F2 94B0>FA10 94B1>FA12 94B2-94B4>FA15 94B5-94BA>FA19
  94BB>FA22 94BC-94BD>FA25 94BE-98C3>FA2A 98C4>FE32 98C5-98C8>FE45 98C9>FE53 98CA>FE58 98CB>FE67
  98CC-9960>FE6C 9961-99E1>FF5F 99E2-99FB>FFE6"

/-- The ideographs of the last of the wider rows, behind those in order. -/
def compatible : Table := Table.ofText
  "0>F92C 1>F979 2>F995 3>F9E7 4>F9F1 5-8>FA0C 9>FA11 A-B>FA13 C>FA18 D-F>FA1F 10-11>FA23
  12-14>FA27"

end SorobanDeploy.Text.Charset
