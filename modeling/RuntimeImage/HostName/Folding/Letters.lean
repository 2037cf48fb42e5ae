import RuntimeImage.Text.CharTable

/-!
Letters of the alphabetic scripts and the marks among them, below U+2000.
-/

namespace RuntimeImage.HostName.Folding

def letters : CharTable := .ofText
  "41-5A>61 A0>20 A8>20+308 AA>61 AD> AF>20+304 B2-B3>32 B4>20+301 B5>3BC B8>20+327 B9>31 BA>6F
   BC>31+2044+34 BD>31+2044+32 BE>33+2044+34 C0>61+300 C1>61+301 C2>61+302 C3>61+303 C4>61+308
   C5>61+30A C6>E6 C7>63+327 C8>65+300 C9>65+301 CA>65+302 CB>65+308 CC>69+300 CD>69+301 CE>69+302
   CF>69+308 D0>F0 D1>6E+303 D2>6F+300 D3>6F+301 D4>6F+302 D5>6F+303 D6>6F+308 D8>F8 D9>75+300
   DA>75+301 DB>75+302 DC>75+308 DD>79+301 DE>FE DF>73+73 E0>61+300 E1>61+301 E2>61+302 E3>61+303
   E4>61+308 E5>61+30A E7>63+327 E8>65+300 E9>65+301 EA>65+302 EB>65+308 EC>69+300 ED>69+301
   EE>69+302 EF>69+308 F1>6E+303 F2>6F+300 F3>6F+301 F4>6F+302 F5>6F+303 F6>6F+308 F9>75+300
   FA>75+301 FB>75+302 FC>75+308 FD>79+301 FF>79+308 100>61+304 101>61+304 102>61+306 103>61+306
   104>61+328 105>61+328 106>63+301 107>63+301 108>63+302 109>63+302 10A>63+307 10B>63+307
   10C>63+30C 10D>63+30C 10E>64+30C 10F>64+30C 110>111 112>65+304 113>65+304 114>65+306 115>65+306
   116>65+307 117>65+307 118>65+328 119>65+328 11A>65+30C 11B>65+30C 11C>67+302 11D>67+302
   11E>67+306 11F>67+306 120>67+307 121>67+307 122>67+327 123>67+327 124>68+302 125>68+302 126>127
   128>69+303 129>69+303 12A>69+304 12B>69+304 12C>69+306 12D>69+306 12E>69+328 12F>69+328
   130>69+307 132>69+6A 133>69+6A 134>6A+302 135>6A+302 136>6B+327 137>6B+327 139>6C+301
   13A>6C+301 13B>6C+327 13C>6C+327 13D>6C+30C 13E>6C+30C 13F>6C+B7 140>6C+B7 141>142 143>6E+301
   144>6E+301 145>6E+327 146>6E+327 147>6E+30C 148>6E+30C 149>2BC+6E 14A>14B 14C>6F+304 14D>6F+304
   14E>6F+306 14F>6F+306 150>6F+30B 151>6F+30B 152>153 154>72+301 155>72+301 156>72+327 157>72+327
   158>72+30C 159>72+30C 15A>73+301 15B>73+301 15C>73+302 15D>73+302 15E>73+327 15F>73+327
   160>73+30C 161>73+30C 162>74+327 163>74+327 164>74+30C 165>74+30C 166>167 168>75+303 169>75+303
   16A>75+304 16B>75+304 16C>75+306 16D>75+306 16E>75+30A 16F>75+30A 170>75+30B 171>75+30B
   172>75+328 173>75+328 174>77+302 175>77+302 176>79+302 177>79+302 178>79+308 179>7A+301
   17A>7A+301 17B>7A+307 17C>7A+307 17D>7A+30C 17E>7A+30C 17F>73 181>253 182-184/2>183 186>254
   187>188 189-18A>256 18B>18C 18E>1DD 18F>259 190>25B 191>192 193>260 194>263 196>269 197>268
   198>199 19C>26F 19D>272 19F>275 1A0>6F+31B 1A1>6F+31B 1A2-1A4/2>1A3 1A6>280 1A7>1A8 1A9>283
   1AC>1AD 1AE>288 1AF>75+31B 1B0>75+31B 1B1-1B2>28A 1B3-1B5/2>1B4 1B7>292 1B8>1B9 1BC>1BD
   1C4>64+7A+30C 1C5>64+7A+30C 1C6>64+7A+30C 1C7>6C+6A 1C8>6C+6A 1C9>6C+6A 1CA>6E+6A 1CB>6E+6A
   1CC>6E+6A 1CD>61+30C 1CE>61+30C 1CF>69+30C 1D0>69+30C 1D1>6F+30C 1D2>6F+30C 1D3>75+30C
   1D4>75+30C 1D5>75+308+304 1D6>75+308+304 1D7>75+308+301 1D8>75+308+301 1D9>75+308+30C
   1DA>75+308+30C 1DB>75+308+300 1DC>75+308+300 1DE>61+308+304 1DF>61+308+304 1E0>61+307+304
   1E1>61+307+304 1E2>E6+304 1E3>E6+304 1E4>1E5 1E6>67+30C 1E7>67+30C 1E8>6B+30C 1E9>6B+30C
   1EA>6F+328 1EB>6F+328 1EC>6F+328+304 1ED>6F+328+304 1EE>292+30C 1EF>292+30C 1F0>6A+30C
   1F1>64+7A 1F2>64+7A 1F3>64+7A 1F4>67+301 1F5>67+301 1F6>195 1F7>1BF 1F8>6E+300 1F9>6E+300
   1FA>61+30A+301 1FB>61+30A+301 1FC>E6+301 1FD>E6+301 1FE>F8+301 1FF>F8+301 200>61+30F 201>61+30F
   202>61+311 203>61+311 204>65+30F 205>65+30F 206>65+311 207>65+311 208>69+30F 209>69+30F
   20A>69+311 20B>69+311 20C>6F+30F 20D>6F+30F 20E>6F+311 20F>6F+311 210>72+30F 211>72+30F
   212>72+311 213>72+311 214>75+30F 215>75+30F 216>75+311 217>75+311 218>73+326 219>73+326
   21A>74+326 21B>74+326 21C>21D 21E>68+30C 21F>68+30C 220>19E 222-224/2>223 226>61+307 227>61+307
   228>65+327 229>65+327 22A>6F+308+304 22B>6F+308+304 22C>6F+303+304 22D>6F+303+304 22E>6F+307
   22F>6F+307 230>6F+307+304 231>6F+307+304 232>79+304 233>79+304 23A>2C65 23B>23C 23D>19A
   23E>2C66 241>242 243>180 244>289 245>28C 246-24E/2>247 2B0-2B2/2>68 2B1>266 2B3>72 2B4>279
   2B5>27B 2B6>281 2B7>77 2B8>79 2D8>20+306 2D9>20+307 2DA>20+30A 2DB>20+328 2DC>20+303 2DD>20+30B
   2E0>263 2E1>6C 2E2>73 2E3>78 2E4>295 340-341>300 343>313 344>308+301 345>3B9 34F> 370-372/2>371
   374>2B9 376>377 37A>20+3B9 37E>3B 37F>3F3 384>20+301 385>20+308+301 386>3B1+301 387>B7
   388>3B5+301 389>3B7+301 38A>3B9+301 38C>3BF+301 38E>3C5+301 38F>3C9+301 390>3B9+308+301
   391-3A1>3B1 3A3-3A9>3C3 3AA>3B9+308 3AB>3C5+308 3AC>3B1+301 3AD>3B5+301 3AE>3B7+301 3AF>3B9+301
   3B0>3C5+308+301 3C2>3C3 3CA>3B9+308 3CB>3C5+308 3CC>3BF+301 3CD>3C5+301 3CE>3C9+301 3CF>3D7
   3D0>3B2 3D1>3B8 3D2>3C5 3D3>3C5+301 3D4>3C5+308 3D5>3C6 3D6>3C0 3D8-3EE/2>3D9 3F0>3BA 3F1>3C1
   3F2>3C3 3F4>3B8 3F5>3B5 3F7>3F8 3F9>3C3 3FA>3FB 3FD-3FF>37B 400>435+300 401>435+308
   402-40A/2>452 403>433+301 405>455 407>456+308 409-40B/2>459 40C>43A+301 40D>438+300 40E>443+306
   40F>45F 410-42E/2>430 411-417/2>431 419>438+306 41B-42F/2>43B 439>438+306 450>435+300
   451>435+308 453>433+301 457>456+308 45C>43A+301 45D>438+300 45E>443+306 460-474/2>461
   476>475+30F 477>475+30F 478-480/2>479 48A-4BE/2>48B 4C0>4CF 4C1>436+306 4C2>436+306
   4C3-4CD/2>4C4 4D0>430+306 4D1>430+306 4D2>430+308 4D3>430+308 4D4>4D5 4D6>435+306 4D7>435+306
   4D8>4D9 4DA>4D9+308 4DB>4D9+308 4DC>436+308 4DD>436+308 4DE>437+308 4DF>437+308 4E0>4E1
   4E2>438+304 4E3>438+304 4E4>438+308 4E5>438+308 4E6>43E+308 4E7>43E+308 4E8>4E9 4EA>4E9+308
   4EB>4E9+308 4EC>44D+308 4ED>44D+308 4EE>443+304 4EF>443+304 4F0>443+308 4F1>443+308 4F2>443+30B
   4F3>443+30B 4F4>447+308 4F5>447+308 4F6>4F7 4F8>44B+308 4F9>44B+308 4FA-52E/2>4FB 531-556>561
   587>565+582 622>627+653 623>627+654 624>648+654 625>627+655 626>64A+654 675>627+674 676>648+674
   677>6C7+674 678>64A+674 6C0>6D5+654 6C2>6C1+654 6D3>6D2+654 929>928+93C 931>930+93C 934>933+93C
   958>915+93C 959>916+93C 95A>917+93C 95B>91C+93C 95C>921+93C 95D>922+93C 95E>92B+93C 95F>92F+93C
   9CB>9C7+9BE 9CC>9C7+9D7 9DC>9A1+9BC 9DD>9A2+9BC 9DF>9AF+9BC A33>A32+A3C A36>A38+A3C A59>A16+A3C
   A5A>A17+A3C A5B>A1C+A3C A5E>A2B+A3C B48>B47+B56 B4B>B47+B3E B4C>B47+B57 B5C>B21+B3C B5D>B22+B3C
   B94>B92+BD7 BCA>BC6+BBE BCB>BC7+BBE BCC>BC6+BD7 C48>C46+C56 CC0>CBF+CD5 CC7>CC6+CD5 CC8>CC6+CD6
   CCA>CC6+CC2 CCB>CC6+CC2+CD5 D4A>D46+D3E D4B>D47+D3E D4C>D46+D57 DDA>DD9+DCA DDC>DD9+DCF
   DDD>DD9+DCF+DCA DDE>DD9+DDF E33>E4D+E32 EB3>ECD+EB2 EDC>EAB+E99 EDD>EAB+EA1 F0C>F0B F43>F42+FB7
   F4D>F4C+FB7 F52>F51+FB7 F57>F56+FB7 F5C>F5B+FB7 F69>F40+FB5 F73>F71+F72 F75>F71+F74 F76>FB2+F80
   F77>FB2+F71+F80 F78>FB3+F80 F79>FB3+F71+F80 F81>F71+F80 F93>F92+FB7 F9D>F9C+FB7 FA2>FA1+FB7
   FA7>FA6+FB7 FAC>FAB+FB7 FB9>F90+FB5 1026>1025+102E 10A0-10C5>2D00 10C7>2D27 10CD>2D2D
   13A0-13EF>AB70 13F0-13F5>13F8 1806> 180B> 180C> 180D> 1C90-1CBA>10D0 1CBD-1CBF>10FD 1E00>61+325
   1E01>61+325 1E02>62+307 1E03>62+307 1E04>62+323 1E05>62+323 1E06>62+331 1E07>62+331
   1E08>63+327+301 1E09>63+327+301 1E0A>64+307 1E0B>64+307 1E0C>64+323 1E0D>64+323 1E0E>64+331
   1E0F>64+331 1E10>64+327 1E11>64+327 1E12>64+32D 1E13>64+32D 1E14>65+304+300 1E15>65+304+300
   1E16>65+304+301 1E17>65+304+301 1E18>65+32D 1E19>65+32D 1E1A>65+330 1E1B>65+330 1E1C>65+327+306
   1E1D>65+327+306 1E1E>66+307 1E1F>66+307 1E20>67+304 1E21>67+304 1E22>68+307 1E23>68+307
   1E24>68+323 1E25>68+323 1E26>68+308 1E27>68+308 1E28>68+327 1E29>68+327 1E2A>68+32E 1E2B>68+32E
   1E2C>69+330 1E2D>69+330 1E2E>69+308+301 1E2F>69+308+301 1E30>6B+301 1E31>6B+301 1E32>6B+323
   1E33>6B+323 1E34>6B+331 1E35>6B+331 1E36>6C+323 1E37>6C+323 1E38>6C+323+304 1E39>6C+323+304
   1E3A>6C+331 1E3B>6C+331 1E3C>6C+32D 1E3D>6C+32D 1E3E>6D+301 1E3F>6D+301 1E40>6D+307 1E41>6D+307
   1E42>6D+323 1E43>6D+323 1E44>6E+307 1E45>6E+307 1E46>6E+323 1E47>6E+323 1E48>6E+331 1E49>6E+331
   1E4A>6E+32D 1E4B>6E+32D 1E4C>6F+303+301 1E4D>6F+303+301 1E4E>6F+303+308 1E4F>6F+303+308
   1E50>6F+304+300 1E51>6F+304+300 1E52>6F+304+301 1E53>6F+304+301 1E54>70+301 1E55>70+301
   1E56>70+307 1E57>70+307 1E58>72+307 1E59>72+307 1E5A>72+323 1E5B>72+323 1E5C>72+323+304
   1E5D>72+323+304 1E5E>72+331 1E5F>72+331 1E60>73+307 1E61>73+307 1E62>73+323 1E63>73+323
   1E64>73+301+307 1E65>73+301+307 1E66>73+30C+307 1E67>73+30C+307 1E68>73+323+307 1E69>73+323+307
   1E6A>74+307 1E6B>74+307 1E6C>74+323 1E6D>74+323 1E6E>74+331 1E6F>74+331 1E70>74+32D 1E71>74+32D
   1E72>75+324 1E73>75+324 1E74>75+330 1E75>75+330 1E76>75+32D 1E77>75+32D 1E78>75+303+301
   1E79>75+303+301 1E7A>75+304+308 1E7B>75+304+308 1E7C>76+303 1E7D>76+303 1E7E>76+323 1E7F>76+323
   1E80>77+300 1E81>77+300 1E82>77+301 1E83>77+301 1E84>77+308 1E85>77+308 1E86>77+307 1E87>77+307
   1E88>77+323 1E89>77+323 1E8A>78+307 1E8B>78+307 1E8C>78+308 1E8D>78+308 1E8E>79+307 1E8F>79+307
   1E90>7A+302 1E91>7A+302 1E92>7A+323 1E93>7A+323 1E94>7A+331 1E95>7A+331 1E96>68+331 1E97>74+308
   1E98>77+30A 1E99>79+30A 1E9A>61+2BE 1E9B>73+307 1E9E>73+73 1EA0>61+323 1EA1>61+323 1EA2>61+309
   1EA3>61+309 1EA4>61+302+301 1EA5>61+302+301 1EA6>61+302+300 1EA7>61+302+300 1EA8>61+302+309
   1EA9>61+302+309 1EAA>61+302+303 1EAB>61+302+303 1EAC>61+323+302 1EAD>61+323+302 1EAE>61+306+301
   1EAF>61+306+301 1EB0>61+306+300 1EB1>61+306+300 1EB2>61+306+309 1EB3>61+306+309 1EB4>61+306+303
   1EB5>61+306+303 1EB6>61+323+306 1EB7>61+323+306 1EB8>65+323 1EB9>65+323 1EBA>65+309 1EBB>65+309
   1EBC>65+303 1EBD>65+303 1EBE>65+302+301 1EBF>65+302+301 1EC0>65+302+300 1EC1>65+302+300
   1EC2>65+302+309 1EC3>65+302+309 1EC4>65+302+303 1EC5>65+302+303 1EC6>65+323+302 1EC7>65+323+302
   1EC8>69+309 1EC9>69+309 1ECA>69+323 1ECB>69+323 1ECC>6F+323 1ECD>6F+323 1ECE>6F+309 1ECF>6F+309
   1ED0>6F+302+301 1ED1>6F+302+301 1ED2>6F+302+300 1ED3>6F+302+300 1ED4>6F+302+309 1ED5>6F+302+309
   1ED6>6F+302+303 1ED7>6F+302+303 1ED8>6F+323+302 1ED9>6F+323+302 1EDA>6F+31B+301 1EDB>6F+31B+301
   1EDC>6F+31B+300 1EDD>6F+31B+300 1EDE>6F+31B+309 1EDF>6F+31B+309 1EE0>6F+31B+303 1EE1>6F+31B+303
   1EE2>6F+31B+323 1EE3>6F+31B+323 1EE4>75+323 1EE5>75+323 1EE6>75+309 1EE7>75+309 1EE8>75+31B+301
   1EE9>75+31B+301 1EEA>75+31B+300 1EEB>75+31B+300 1EEC>75+31B+309 1EED>75+31B+309 1EEE>75+31B+303
   1EEF>75+31B+303 1EF0>75+31B+323 1EF1>75+31B+323 1EF2>79+300 1EF3>79+300 1EF4>79+323 1EF5>79+323
   1EF6>79+309 1EF7>79+309 1EF8>79+303 1EF9>79+303 1EFA-1EFE/2>1EFB 1F00>3B1+313 1F01>3B1+314
   1F02>3B1+313+300 1F03>3B1+314+300 1F04>3B1+313+301 1F05>3B1+314+301 1F06>3B1+313+342
   1F07>3B1+314+342 1F08>3B1+313 1F09>3B1+314 1F0A>3B1+313+300 1F0B>3B1+314+300 1F0C>3B1+313+301
   1F0D>3B1+314+301 1F0E>3B1+313+342 1F0F>3B1+314+342 1F10>3B5+313 1F11>3B5+314 1F12>3B5+313+300
   1F13>3B5+314+300 1F14>3B5+313+301 1F15>3B5+314+301 1F18>3B5+313 1F19>3B5+314 1F1A>3B5+313+300
   1F1B>3B5+314+300 1F1C>3B5+313+301 1F1D>3B5+314+301 1F20>3B7+313 1F21>3B7+314 1F22>3B7+313+300
   1F23>3B7+314+300 1F24>3B7+313+301 1F25>3B7+314+301 1F26>3B7+313+342 1F27>3B7+314+342
   1F28>3B7+313 1F29>3B7+314 1F2A>3B7+313+300 1F2B>3B7+314+300 1F2C>3B7+313+301 1F2D>3B7+314+301
   1F2E>3B7+313+342 1F2F>3B7+314+342 1F30>3B9+313 1F31>3B9+314 1F32>3B9+313+300 1F33>3B9+314+300
   1F34>3B9+313+301 1F35>3B9+314+301 1F36>3B9+313+342 1F37>3B9+314+342 1F38>3B9+313 1F39>3B9+314
   1F3A>3B9+313+300 1F3B>3B9+314+300 1F3C>3B9+313+301 1F3D>3B9+314+301 1F3E>3B9+313+342
   1F3F>3B9+314+342 1F40>3BF+313 1F41>3BF+314 1F42>3BF+313+300 1F43>3BF+314+300 1F44>3BF+313+301
   1F45>3BF+314+301 1F48>3BF+313 1F49>3BF+314 1F4A>3BF+313+300 1F4B>3BF+314+300 1F4C>3BF+313+301
   1F4D>3BF+314+301 1F50>3C5+313 1F51>3C5+314 1F52>3C5+313+300 1F53>3C5+314+300 1F54>3C5+313+301
   1F55>3C5+314+301 1F56>3C5+313+342 1F57>3C5+314+342 1F59>3C5+314 1F5B>3C5+314+300
   1F5D>3C5+314+301 1F5F>3C5+314+342 1F60>3C9+313 1F61>3C9+314 1F62>3C9+313+300 1F63>3C9+314+300
   1F64>3C9+313+301 1F65>3C9+314+301 1F66>3C9+313+342 1F67>3C9+314+342 1F68>3C9+313 1F69>3C9+314
   1F6A>3C9+313+300 1F6B>3C9+314+300 1F6C>3C9+313+301 1F6D>3C9+314+301 1F6E>3C9+313+342
   1F6F>3C9+314+342 1F70>3B1+300 1F71>3B1+301 1F72>3B5+300 1F73>3B5+301 1F74>3B7+300 1F75>3B7+301
   1F76>3B9+300 1F77>3B9+301 1F78>3BF+300 1F79>3BF+301 1F7A>3C5+300 1F7B>3C5+301 1F7C>3C9+300
   1F7D>3C9+301 1F80>3B1+313+3B9 1F81>3B1+314+3B9 1F82>3B1+313+300+3B9 1F83>3B1+314+300+3B9
   1F84>3B1+313+301+3B9 1F85>3B1+314+301+3B9 1F86>3B1+313+342+3B9 1F87>3B1+314+342+3B9
   1F88>3B1+313+3B9 1F89>3B1+314+3B9 1F8A>3B1+313+300+3B9 1F8B>3B1+314+300+3B9
   1F8C>3B1+313+301+3B9 1F8D>3B1+314+301+3B9 1F8E>3B1+313+342+3B9 1F8F>3B1+314+342+3B9
   1F90>3B7+313+3B9 1F91>3B7+314+3B9 1F92>3B7+313+300+3B9 1F93>3B7+314+300+3B9
   1F94>3B7+313+301+3B9 1F95>3B7+314+301+3B9 1F96>3B7+313+342+3B9 1F97>3B7+314+342+3B9
   1F98>3B7+313+3B9 1F99>3B7+314+3B9 1F9A>3B7+313+300+3B9 1F9B>3B7+314+300+3B9
   1F9C>3B7+313+301+3B9 1F9D>3B7+314+301+3B9 1F9E>3B7+313+342+3B9 1F9F>3B7+314+342+3B9
   1FA0>3C9+313+3B9 1FA1>3C9+314+3B9 1FA2>3C9+313+300+3B9 1FA3>3C9+314+300+3B9
   1FA4>3C9+313+301+3B9 1FA5>3C9+314+301+3B9 1FA6>3C9+313+342+3B9 1FA7>3C9+314+342+3B9
   1FA8>3C9+313+3B9 1FA9>3C9+314+3B9 1FAA>3C9+313+300+3B9 1FAB>3C9+314+300+3B9
   1FAC>3C9+313+301+3B9 1FAD>3C9+314+301+3B9 1FAE>3C9+313+342+3B9 1FAF>3C9+314+342+3B9
   1FB0>3B1+306 1FB1>3B1+304 1FB2>3B1+300+3B9 1FB3>3B1+3B9 1FB4>3B1+301+3B9 1FB6>3B1+342
   1FB7>3B1+342+3B9 1FB8>3B1+306 1FB9>3B1+304 1FBA>3B1+300 1FBB>3B1+301 1FBC>3B1+3B9 1FBD>20+313
   1FBE>3B9 1FBF>20+313 1FC0>20+342 1FC1>20+308+342 1FC2>3B7+300+3B9 1FC3>3B7+3B9 1FC4>3B7+301+3B9
   1FC6>3B7+342 1FC7>3B7+342+3B9 1FC8>3B5+300 1FC9>3B5+301 1FCA>3B7+300 1FCB>3B7+301 1FCC>3B7+3B9
   1FCD>20+313+300 1FCE>20+313+301 1FCF>20+313+342 1FD0>3B9+306 1FD1>3B9+304 1FD2>3B9+308+300
   1FD3>3B9+308+301 1FD6>3B9+342 1FD7>3B9+308+342 1FD8>3B9+306 1FD9>3B9+304 1FDA>3B9+300
   1FDB>3B9+301 1FDD>20+314+300 1FDE>20+314+301 1FDF>20+314+342 1FE0>3C5+306 1FE1>3C5+304
   1FE2>3C5+308+300 1FE3>3C5+308+301 1FE4>3C1+313 1FE5>3C1+314 1FE6>3C5+342 1FE7>3C5+308+342
   1FE8>3C5+306 1FE9>3C5+304 1FEA>3C5+300 1FEB>3C5+301 1FEC>3C1+314 1FED>20+308+300
   1FEE>20+308+301 1FEF>60 1FF2>3C9+300+3B9 1FF3>3C9+3B9 1FF4>3C9+301+3B9 1FF6>3C9+342
   1FF7>3C9+342+3B9 1FF8>3BF+300 1FF9>3BF+301 1FFA>3C9+300 1FFB>3C9+301 1FFC>3C9+3B9 1FFD>20+301
   1FFE>20+314"

end RuntimeImage.HostName.Folding
