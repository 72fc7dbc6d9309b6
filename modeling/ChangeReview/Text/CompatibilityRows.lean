/-!
# Compatibility mappings

Unicode 14 data for identifier characters: compatibility decompositions, combining classes and primary
composites. Rows are divided by semicolons, and each is a sequence of hexadecimal numbers. The first of them is
the distance from the first code point of the row before, and left out if it is 1; a length of 1 is left out too.
-/

namespace ChangeReview.Text

/-- First code point, first target and length of each run that maps to single code points. -/
def singleMappings : List String :=
  ["AA 61;B 3BC;5 6F;C5 73;131 68; 266; 6A; 72; 279; 27B; 281; 77; 79;28 263; 6C; 73; 78; 295;5C 300 2;3 313",
    "31 2B9;13 B7;49 3B2; 3B8; 3A5;3 3C6; 3C0;1A 3BA; 3C1 2;3 398; 3B5;4 3A3;D03 10DC;C30 41; C6; 42;2 44 2",
    "2 18E; 47 8;9 4F; 222; 50; 52; 54 2;2 57; 61; 250 2;2 1D02; 62; 64 2;2 259; 25B 2;2 67;2 6B; 6D; 14B; 6F",
    " 254; 1D16 2;2 70; 74 2;2 1D1D; 26F; 76; 1D25; 3B2 3;3 3C6 2;2 69; 72; 75 2;2 3B2 2;2 3C1; 3C6 2;F 43D",
    "23 252; 63; 255; F0; 25C; 66; 25F; 261; 265; 268 3;3 1D7B; 29D; 26D; 1D85; 29F; 271; 270; 272 4;4 278",
    " 282 2;2 1AB; 289 2;2 1D1C; 28B 2;2 7A; 290 3;3 3B8;1FF 3B9;B3 69;E 6E;11 61; 65; 6F; 78; 259; 68; 6B 4",
    "4 70; 73 2;67 43;5 190;3 67; 48; 48; 48; 68; 127; 49; 49; 4C; 6C;2 4E;4 50 3;3 52; 52;7 5A;2 3A9;2 5A",
    "2 4B;2 42 2;3 65; 45 2;3 4D; 6F; 5D0 4;4 69;3 3C0; 3B3; 393; 3A0;6 44; 64 2;2 69 2;18 49;4 56;5 58;3 4C",
    " 43 2;2 4D; 69;4 76;5 78;3 6C; 63 2;2 6D;AFD 6A; 56;F2 2D61;2C9 5341; 5344 2;F8 1100 2;2 11AA; 1102",
    " 11AC 2;2 1103 3;3 11B0 6;6 111A; 1106 3;3 1121; 1109 A;A 1161 15;15 1160; 1114 2;2 11C7 2;2 11CC; 11CE",
    " 11D3; 11D7; 11D9; 111C; 11DD; 11DF; 111D 2;2 1120; 1122 2;2 1127; 1129; 112B 5;5 1132; 1136; 1140; 1147",
    " 114C; 11F1 2;2 1157 3;3 1184 2;2 1188; 1191 2;2 1194; 119E; 11A1;750E 44A; 44C;D3 A76F;82 43; 46; 51",
    "4 126; 153;363 A727; AB37; 26B; AB52;A 28D;4D97 8C48; 66F4; 8ECA; 8CC8; 6ED1; 4E32; 53E5; 9F9C; 9F9C",
    " 5951; 91D1; 5587; 5948; 61F6; 7669; 7F85; 863F; 87BA; 88F8; 908F; 6A02; 6D1B; 70D9; 73DE; 843D; 916A",
    " 99F1; 4E82; 5375; 6B04; 721B; 862D; 9E1E; 5D50; 6FEB; 85CD; 8964; 62C9; 81D8; 881F; 5ECA; 6717; 6D6A",
    " 72FC; 90CE; 4F86; 51B7; 52DE; 64C4; 6AD3; 7210; 76E7; 8001; 8606; 865C; 8DEF; 9732; 9B6F; 9DFA; 788C",
    " 797F; 7DA0; 83C9; 9304; 9E7F; 8AD6; 58DF; 5F04; 7C60; 807E; 7262; 78CA; 8CC2; 96F7; 58D8; 5C62; 6A13",
    " 6DDA; 6F0F; 7D2F; 7E37; 964B; 52D2; 808B; 51DC; 51CC; 7A1C; 7DBE; 83F1; 9675; 8B80; 62CF; 6A02; 8AFE",
    " 4E39; 5BE7; 6012; 7387; 7570; 5317; 78FB; 4FBF; 5FA9; 4E0D; 6CCC; 6578; 7D22; 53C3; 585E; 7701; 8449",
    " 8AAA; 6BBA; 8FB0; 6C88; 62FE; 82E5; 63A0; 7565; 4EAE; 5169; 51C9; 6881; 7CE7; 826F; 8AD2; 91CF; 52F5",
    " 5442; 5973; 5EEC; 65C5; 6FFE; 792A; 95AD; 9A6A; 9E97; 9ECE; 529B; 66C6; 6B77; 8F62; 5E74; 6190; 6200",
    " 649A; 6F23; 7149; 7489; 79CA; 7DF4; 806F; 8F26; 84EE; 9023; 934A; 5217; 52A3; 54BD; 70C8; 88C2; 8AAA",
    " 5EC9; 5FF5; 637B; 6BAE; 7C3E; 7375; 4EE4; 56F9; 5BE7; 5DBA; 601C; 73B2; 7469; 7F9A; 8046; 9234; 96F6",
    " 9748; 9818; 4F8B; 79AE; 91B4; 96B8; 60E1; 4E86; 50DA; 5BEE; 5C3F; 6599; 6A02; 71CE; 7642; 84FC; 907C",
    " 9F8D; 6688; 962E; 5289; 677B; 67F3; 6D41; 6E9C; 7409; 7559; 786B; 7D10; 985E; 516D; 622E; 9678; 502B",
    " 5D19; 6DEA; 8F2A; 5F8B; 6144; 6817; 7387; 9686; 5229; 540F; 5C65; 6613; 674E; 68A8; 6CE5; 7406; 75E2",
    " 7F79; 88CF; 88E1; 91CC; 96E2; 533F; 6EBA; 541D; 71D0; 7498; 85FA; 96A3; 9C57; 9E9F; 6797; 6DCB; 81E8",
    " 7ACB; 7B20; 7C92; 72C0; 7099; 8B58; 4EC0; 8336; 523A; 5207; 5EA6; 62D3; 7CD6; 5B85; 6D1E; 66B4; 8F3B",
    " 884C; 964D; 898B; 5ED3; 5140; 55C0;3 585A;2 6674;3 51DE; 732A; 76CA; 793C; 795E; 7965; 798F; 9756; 7CBE",
    " 7FBD;2 8612;2 8AF8;3 9038; 90FD;4 98EF; 98FC; 9928; 9DB4; 90DE; 96B7; 4FAE; 50E7; 514D; 52C9; 52E4",
    " 5351; 559D; 5606; 5668; 5840; 58A8; 5C64; 5C6E; 6094; 6168; 618E; 61F2; 654F; 65E2; 6691; 6885; 6D77",
    " 6E1A; 6F22; 716E; 722B; 7422; 7891; 793E; 7949; 7948; 7950; 7956; 795D; 798D 2;2 7A40; 7A81; 7BC0; 7DF4",
    " 7E09; 7E41; 7F72; 8005; 81ED; 8279; 8279; 8457; 8910; 8996; 8B01; 8B39; 8CD3; 8D08; 8FB6; 9038; 96E3",
    " 97FF; 983B; 6075; 242EE; 8218;3 4E26; 51B5; 5168; 4F80; 5145; 5180; 52C7; 52FA; 559D; 5555; 5599; 55E2",
    " 585A; 58B3; 5944; 5954; 5A62; 5B28; 5ED2; 5ED9; 5F69; 5FAD; 60D8; 614E; 6108; 618E; 6160; 61F2; 6234",
    " 63C4; 641C; 6452; 6556; 6674; 6717; 671B; 6756; 6B79; 6BBA; 6D41; 6EDB; 6ECB; 6F22; 701E; 716E; 77A7",
    " 7235; 72AF; 732A; 7471; 7506; 753B; 761D; 761F; 76CA; 76DB; 76F4; 774A; 7740; 78CC; 7AB1; 7BC0; 7C7B",
    " 7D5B; 7DF4; 7F3E; 8005; 8352; 83EF; 8779; 8941; 8986; 8996; 8ABF; 8AF8; 8ACB; 8B01; 8AFE; 8AED; 8B39",
    " 8B8A; 8D08; 8F38; 9072; 9199; 9276; 967C; 96E3; 9756; 97DB; 97FF; 980B; 983B; 9B12; 9F9C; 2284A; 22844",
    " 233D5; 3B9D; 4018; 4039; 25249; 25CD0; 27ED3; 9F43; 9F8E;47 5E2; 5D0; 5D3 2;2 5DB 3;3 5E8; 5EA;28 671",
    " 671; 67B; 67B; 67B; 67B; 67E; 67E; 67E; 67E; 680; 680; 680; 680; 67A; 67A; 67A; 67A; 67F; 67F; 67F; 67F",
    " 679; 679; 679; 679; 6A4; 6A4; 6A4; 6A4; 6A6; 6A6; 6A6; 6A6; 684; 684; 684; 684; 683; 683; 683; 683; 686",
    " 686; 686; 686 2;2 687; 687; 687; 68D; 68D; 68C; 68C; 68E; 68E; 688; 688; 698; 698; 691; 691; 6A9; 6A9",
    " 6A9; 6A9; 6AF; 6AF; 6AF; 6AF; 6B3; 6B3; 6B3; 6B3; 6B1; 6B1; 6B1; 6B1; 6BA; 6BA 2;2 6BB; 6BB; 6BB;3 6C1",
    " 6C1; 6C1; 6C1; 6BE; 6BE; 6BE; 6BE; 6D2; 6D2;24 6AD; 6AD; 6AD; 6AD; 6C7; 6C7; 6C6; 6C6; 6C8; 6C8;2 6CB",
    " 6CB; 6C5; 6C5; 6C9; 6C9; 6D0; 6D0; 6D0; 6D0; 649; 649;13 6CC; 6CC; 6CC; 6CC;234 5F; 5F;19 5F; 5F; 5F",
    "31 621;D 627; 627 2;2 628; 628; 628 2;2 629 2;2 62A; 62A; 62A 2;2 62B; 62B; 62B 2;2 62C; 62C; 62C 2",
    "2 62D; 62D; 62D 2;2 62E; 62E; 62E 2;2 62F 2;2 630 2;2 631 2;2 632 2;2 633; 633; 633 2;2 634; 634; 634 2",
    "2 635; 635; 635 2;2 636; 636; 636 2;2 637; 637; 637 2;2 638; 638; 638 2;2 639; 639; 639 2;2 63A; 63A",
    " 63A; 641; 641; 641; 641 2;2 642; 642; 642 2;2 643; 643; 643 2;2 644; 644; 644 2;2 645; 645; 645 2;2 646",
    " 646; 646 2;2 647; 647; 647 2;2 648 2;2 649 2;2 64A; 64A; 64A;1C 30 A;11 41 1A;1E 5F;2 61 1A;25 30F2",
    " 30A1; 30A3; 30A5; 30A7; 30A9; 30E3; 30E5; 30E7; 30C3; 30FC; 30A2; 30A4; 30A6; 30A8; 30AA 2;2 30AD; 30AF",
    " 30B1; 30B3; 30B5; 30B7; 30B9; 30BB; 30BD; 30BF; 30C1; 30C4; 30C6; 30C8; 30CA 6;6 30D2; 30D5; 30D8; 30DB",
    " 30DE 5;5 30E4; 30E6; 30E8 6;6 30EF; 30F3; 3099 2;2 1160; 1100 2;2 11AA; 1102; 11AC 2;2 1103 3;3 11B0 6",
    "6 111A; 1106 3;3 1121; 1109 A;D 1161 6;8 1167 6;8 116D 6;8 1173 3;7A7 2D0 2;2 E6; 299; 253;2 2A3; AB66",
    " 2A5; 2A4; 256 2;2 1D91; 258; 25E; 2A9; 264; 262; 260; 29B; 127; 29C; 267; 284; 2AA 2;2 26C; 1DF04; A78E",
    " 26E; 1DF05; 28E; 1DF06; F8; 276 2;2 71; 27A; 1DF08; 27D 2;2 280; 2A8; 2A6; AB67; 2A7; 288; 2C71;2 28F",
    " 2A1 2;2 298; 1C0 3;3 1DF0A; 1DF1E;CC46 41 1A;1A 61 1A;1A 41 1A;1A 61 7;8 69 12;12 41 1A;1A 61 1A;1A 41",
    "2 43 2;4 47;3 4A 2;4 4E 4;5 53 8;8 61 4;5 66;2 68 7;8 70 B;B 41 1A;1A 61 1A;1A 41 2;3 44 4;6 4A 8;9 53 7",
    "8 61 1A;1A 41 2;3 44 4;5 49 5;6 4F;4 53 7;8 61 1A;1A 41 1A;1A 61 1A;1A 41 1A;1A 61 1A;1A 41 1A;1A 61 1A",
    "1A 41 1A;1A 61 1A;1A 41 1A;1A 61 1A;1A 41 1A;1A 61 1A;1A 131; 237;3 391 11;11 398; 3A3 7;8 3B1 19;1A 3B5",
    " 3B8; 3BA; 3C6; 3C1; 3C0; 391 11;11 398; 3A3 7;8 3B1 19;1A 3B5; 3B8; 3BA; 3C6; 3C1; 3C0; 391 11;11 398",
    " 3A3 7;8 3B1 19;1A 3B5; 3B8; 3BA; 3C6; 3C1; 3C0; 391 11;11 398; 3A3 7;8 3B1 19;1A 3B5; 3B8; 3BA; 3C6",
    " 3C1; 3C0; 391 11;11 398; 3A3 7;8 3B1 19;1A 3B5; 3B8; 3BA; 3C6; 3C1; 3C0; 3DC 2;4 30 A;A 30 A;A 30 A",
    "A 30 A;A 30 A;160A 627 2;2 62C; 62F;2 648; 632; 62D; 637; 64A; 643 4;4 633; 639; 641; 635; 642; 631; 634",
    " 62A 2;2 62E; 630; 636; 638; 63A; 66E; 6BA; 6A1; 66F;2 628; 62C;2 647;3 62D;2 64A; 643 4;4 633; 639; 641",
    " 635; 642;2 634; 62A 2;2 62E;2 636;2 63A;7 62C;5 62D;2 64A;2 644;2 646; 633; 639;2 635; 642;2 634;3 62E",
    "2 636;2 63A;2 6BA;2 66F;2 628; 62C;2 647;3 62D; 637; 64A; 643;2 645 2;2 633; 639; 641; 635; 642;2 634",
    " 62A 2;2 62E;2 636; 638; 63A; 66E;2 6A1;2 627 2;2 62C; 62F; 647 2;2 632; 62D; 637; 64A;2 644 3;3 633",
    " 639; 641; 635; 642; 631; 634; 62A 2;2 62E; 630; 636; 638; 63A;6 628; 62C; 62F;2 648; 632; 62D; 637; 64A",
    "2 644 3;3 633; 639; 641; 635; 642; 631; 634; 62A 2;2 62E; 630; 636; 638; 63A;D35 30 A;FC10 4E3D; 4E38",
    " 4E41; 20122; 4F60; 4FAE; 4FBB; 5002; 507A; 5099; 50E7; 50CF; 349E; 2063A; 514D; 5154; 5164; 5177; 2051C",
    " 34B9; 5167; 518D; 2054B; 5197; 51A4; 4ECC; 51AC; 51B5; 291DF; 51F5; 5203; 34DF; 523B; 5246; 5272; 5277",
    " 3515; 52C7; 52C9; 52E4; 52FA; 5305 2;2 5317; 5349; 5351; 535A; 5373; 537D; 537F; 537F; 537F; 20A2C",
    " 7070; 53CA; 53DF; 20B63; 53EB; 53F1; 5406; 549E; 5438; 5448; 5468; 54A2; 54F6; 5510; 5553; 5563; 5584",
    " 5584; 5599; 55AB; 55B3; 55C2; 5716; 5606; 5717; 5651; 5674; 5207; 58EE; 57CE; 57F4; 580D; 578B; 5832",
    " 5831; 58AC; 214E4; 58F2; 58F7; 5906; 591A; 5922; 5962; 216A8; 216EA; 59EC; 5A1B; 5A27; 59D8; 5A66; 36EE",
    " 36FC; 5B08; 5B3E; 5B3E; 219C8; 5BC3; 5BD8; 5BE7; 5BF3; 21B18; 5BFF; 5C06; 5F53; 5C22; 3781; 5C60; 5C6E",
    " 5CC0; 5C8D; 21DE4; 5D43; 21DE6; 5D6E; 5D6B; 5D7C; 5DE1 2;2 382F; 5DFD; 5E28; 5E3D; 5E69; 3862; 22183",
    " 387C; 5EB0; 5EB3; 5EB6; 5ECA; 2A392; 5EFE; 22331; 22331; 8201; 5F22; 5F22; 38C7; 232B8; 261DA; 5F62",
    " 5F6B; 38E3; 5F9A; 5FCD; 5FD7; 5FF9; 6081; 393A; 391C; 6094; 226D4; 60C7; 6148; 614C; 614E; 614C; 617A",
    " 618E; 61B2; 61A4; 61AF; 61DE; 61F2; 61F6; 6210; 621B; 625D; 62B1; 62D4; 6350; 22B0C; 633D; 62FC; 6368",
    " 6383; 63E4; 22BF1; 6422; 63C5; 63A9; 3A2E; 6469; 647E; 649D; 6477; 3A6C; 654F; 656C; 2300A; 65E3; 66F8",
    " 6649; 3B19; 6691; 3B08; 3AE4; 5192; 5195; 6700; 669C; 80AD; 43D9; 6717; 671B; 6721; 675E; 6753; 233C3",
    " 3B49; 67FA; 6785; 6852; 6885; 2346D; 688E; 681F; 6914; 3B9D; 6942; 69A3; 69EA; 6AA8; 236A3; 6ADB; 3C18",
    " 6B21; 238A7; 6B54; 3C4E; 6B72; 6B9F; 6BBA 2;2 23A8D; 21D0B; 23AFA; 6C4E; 23CBC; 6CBF; 6CCD; 6C67; 6D16",
    " 6D3E; 6D77; 6D41; 6D69; 6D78; 6D85; 23D1E; 6D34; 6E2F; 6E6E; 3D33; 6ECB; 6EC7; 23ED1; 6DF9; 6F6E; 23F5E",
    " 23F8E; 6FC6; 7039; 701E; 701B; 3D96; 704A; 707D; 7077; 70AD; 20525; 7145; 24263; 719C; 243AB; 7228",
    " 7235; 7250; 24608; 7280; 7295; 24735; 24814; 737A; 738B; 3EAC; 73A5; 3EB8; 3EB8; 7447; 745C; 7471; 7485",
    " 74CA; 3F1B; 7524; 24C36; 753E; 24C92; 7570; 2219F; 7610; 24FA1; 24FB8; 25044; 3FFC; 4008; 76F4; 250F3",
    " 250F2; 25119; 25133; 771E 2;2 771F; 774A; 4039; 778B; 4046; 4096; 2541D; 784E; 788C; 78CC; 40E3; 25626",
    " 7956; 2569A; 256C5; 798F; 79EB; 412F; 7A40; 7A4A; 7A4F; 2597C; 25AA7; 25AA7; 7AEE; 4202; 25BAB; 7BC6",
    " 7BC9; 4227; 25C80; 7CD2; 42A0; 7CE8; 7CE3; 7D00; 25F86; 7D63; 4301; 7DC7; 7E02; 7E45; 4334; 26228",
    " 26247; 4359; 262D9; 7F7A; 2633E; 7F95; 7FFA; 8005; 264DA; 26523; 8060; 265A8; 8070; 2335F; 43D5; 80B2",
    " 8103; 440B; 813E; 5AB5; 267A7; 267B5; 23393; 2339C; 8201; 8204; 8F9E; 446B; 8291; 828B; 829D; 52B3",
    " 82B1; 82B3; 82BD; 82E6; 26B3C; 82E5; 831D; 8363; 83AD; 8323; 83BD; 83E7; 8457; 8353; 83CA; 83CC; 83DC",
    " 26C36; 26D6B; 26CD5; 452B; 84F1; 84F3; 8516; 273CA; 8564; 26F2C; 455D; 4561; 26FB1; 270D2; 456B; 8650",
    " 865C; 8667; 8669; 86A9; 8688; 870E; 86E2; 8779; 8728; 876B; 8786; 45D7; 87E1; 8801; 45F9; 8860; 8863",
    " 27667; 88D7; 88DE; 4635; 88FA; 34BB; 278AE; 27966; 46BE; 46C7; 8AA0; 8AED; 8B8A; 8C55; 27CA8; 8CAB",
    " 8CC1; 8D1B; 8D77; 27F2F; 20804; 8DCB; 8DBC; 8DF0; 208DE; 8ED4; 8F38; 285D2; 285ED; 9094; 90F1; 9111",
    " 2872E; 911B; 9238; 92D7 2;2 927C; 93F9; 9415; 28BFA; 958B; 4995; 95B7; 28D77; 49E6; 96C3; 5DB2; 9723",
    " 29145; 2921A; 4A6E; 4A76; 97E0; 2940A; 4AB2; 29496; 980B; 980B; 9829; 295B6; 98E2; 4B33; 9929; 99A7",
    " 99C2; 99FE; 4BCE; 29B30; 9B12; 9C40; 9CFD; 4CCE; 4CED; 9D67; 2A0CE; 4CF8; 2A105; 2A20E; 2A291; 9EBB",
    " 4D56; 9EF9; 9EFE; 9F05; 9F0F; 9F16; 9F3B; 2A600"]

/-- A code point and the sequence it maps to. Composites that their parts give are left out. -/
def sequenceMappings : List String :=
  ["132 49 4A; 69 6A;C 4C B7; 6C B7;9 2BC 6E;7B 44 5A 30C; 44 7A 30C; 64 7A 30C; 4C 4A; 4C 6A; 6C 6A; 4E 4A",
    " 4E 6A; 6E 6A;14 41 307 304; 61 307 304;E 292 30C;2 44 5A; 44 7A; 64 7A;151 308 301;42 391 301;2 395 301",
    " 397 301; 399 301;2 39F 301;2 3A5 301; 3A9 301; 3B9 308 301;1C 3B1 301; 3B5 301; 3B7 301; 3B9 301",
    " 3C5 308 301;23 3A5 301; 3A5 308;2C 415 300; 415 308;2 413 301;9 41A 301; 418 300; 423 306;179 565 582",
    "9B 627 653; 627 654; 648 654; 627 655; 64A 654;4F 627 674; 648 674; 6C7 674; 64A 674;48 6D5 654",
    "298 915 93C; 916 93C; 917 93C; 91C 93C; 921 93C; 922 93C; 92B 93C; 92F 93C;7D 9A1 9BC; 9A2 9BC;2 9AF 9BC",
    "54 A32 A3C;3 A38 A3C;23 A16 A3C; A17 A3C; A1C A3C;3 A2B A3C;FE B21 B3C; B22 B3C;2D6 E4D E32;80 ECD EB2",
    "29 EAB E99; EAB EA1;66 F42 FB7;A F4C FB7;5 F51 FB7;5 F56 FB7;5 F5B FB7;D F40 FB5;A F71 F72;2 F71 F74",
    " FB2 F80; FB2 F71 F80; FB3 F80; FB3 F71 F80;8 F71 F80;12 F92 FB7;A F9C FB7;5 FA1 FB7;5 FA6 FB7;5 FAB FB7",
    "D F90 FB5;EE1 61 2BE; 73 307;D6 3B1 301;2 3B5 301;2 3B7 301;2 3B9 301;2 3BF 301;2 3C5 301;2 3C9 301",
    "37 3B1 301 345;7 391 301;9 3B7 301 345;5 395 301;2 397 301;8 3B9 308 301;8 399 301;8 3C5 308 301",
    "8 3A5 301;E 39F 301;2 3A9 301;130 41 30A;36 49 49; 49 49 49; 49 56;2 56 49; 56 49 49; 56 49 49 49; 49 58",
    "2 58 49; 58 49 49;6 69 69; 69 69 69; 69 76;2 76 69; 76 69 69; 76 69 69 69; 69 78;2 78 69; 78 69 69",
    "F24 3088 308A;60 30B3 30C8;CA01 66 66; 66 69; 66 6C; 66 66 69; 66 66 6C; 73 74; 73 74;D 574 576; 574 565",
    " 574 56B; 57E 576; 574 56D;6 5D9 5B4;2 5F2 5B7;B 5E9 5C1; 5E9 5C2; 5E9 5BC 5C1; 5E9 5BC 5C2; 5D0 5B7",
    " 5D0 5B8; 5D0 5BC; 5D1 5BC; 5D2 5BC; 5D3 5BC; 5D4 5BC; 5D5 5BC; 5D6 5BC;2 5D8 5BC; 5D9 5BC; 5DA 5BC",
    " 5DB 5BC; 5DC 5BC;2 5DE 5BC;2 5E0 5BC; 5E1 5BC;2 5E3 5BC; 5E4 5BC;2 5E6 5BC; 5E7 5BC; 5E8 5BC; 5E9 5BC",
    " 5EA 5BC; 5D5 5B9; 5D1 5BF; 5DB 5BF; 5E4 5BF; 5D0 5DC;55 6D5 654; 6D5 654;B 6D2 654; 6D2 654;2C 6C7 674",
    "D 64A 654 627; 64A 654 627; 64A 654 6D5; 64A 654 6D5; 64A 654 648; 64A 654 648; 64A 654 6C7; 64A 654 6C7",
    " 64A 654 6C6; 64A 654 6C6; 64A 654 6C8; 64A 654 6C8; 64A 654 6D0; 64A 654 6D0; 64A 654 6D0; 64A 654 649",
    " 64A 654 649; 64A 654 649;5 64A 654 62C; 64A 654 62D; 64A 654 645; 64A 654 649; 64A 654 64A; 628 62C",
    " 628 62D; 628 62E; 628 645; 628 649; 628 64A; 62A 62C; 62A 62D; 62A 62E; 62A 645; 62A 649; 62A 64A",
    " 62B 62C; 62B 645; 62B 649; 62B 64A; 62C 62D; 62C 645; 62D 62C; 62D 645; 62E 62C; 62E 62D; 62E 645",
    " 633 62C; 633 62D; 633 62E; 633 645; 635 62D; 635 645; 636 62C; 636 62D; 636 62E; 636 645; 637 62D",
    " 637 645; 638 645; 639 62C; 639 645; 63A 62C; 63A 645; 641 62C; 641 62D; 641 62E; 641 645; 641 649",
    " 641 64A; 642 62D; 642 645; 642 649; 642 64A; 643 627; 643 62C; 643 62D; 643 62E; 643 644; 643 645",
    " 643 649; 643 64A; 644 62C; 644 62D; 644 62E; 644 645; 644 649; 644 64A; 645 62C; 645 62D; 645 62E",
    " 645 645; 645 649; 645 64A; 646 62C; 646 62D; 646 62E; 646 645; 646 649; 646 64A; 647 62C; 647 645",
    " 647 649; 647 64A; 64A 62C; 64A 62D; 64A 62E; 64A 645; 64A 649; 64A 64A; 630 670; 631 670; 649 670",
    "7 64A 654 631; 64A 654 632; 64A 654 645; 64A 654 646; 64A 654 649; 64A 654 64A; 628 631; 628 632",
    " 628 645; 628 646; 628 649; 628 64A; 62A 631; 62A 632; 62A 645; 62A 646; 62A 649; 62A 64A; 62B 631",
    " 62B 632; 62B 645; 62B 646; 62B 649; 62B 64A; 641 649; 641 64A; 642 649; 642 64A; 643 627; 643 644",
    " 643 645; 643 649; 643 64A; 644 645; 644 649; 644 64A; 645 627; 645 645; 646 631; 646 632; 646 645",
    " 646 646; 646 649; 646 64A; 649 670; 64A 631; 64A 632; 64A 645; 64A 646; 64A 649; 64A 64A; 64A 654 62C",
    " 64A 654 62D; 64A 654 62E; 64A 654 645; 64A 654 647; 628 62C; 628 62D; 628 62E; 628 645; 628 647",
    " 62A 62C; 62A 62D; 62A 62E; 62A 645; 62A 647; 62B 645; 62C 62D; 62C 645; 62D 62C; 62D 645; 62E 62C",
    " 62E 645; 633 62C; 633 62D; 633 62E; 633 645; 635 62D; 635 62E; 635 645; 636 62C; 636 62D; 636 62E",
    " 636 645; 637 62D; 638 645; 639 62C; 639 645; 63A 62C; 63A 645; 641 62C; 641 62D; 641 62E; 641 645",
    " 642 62D; 642 645; 643 62C; 643 62D; 643 62E; 643 644; 643 645; 644 62C; 644 62D; 644 62E; 644 645",
    " 644 647; 645 62C; 645 62D; 645 62E; 645 645; 646 62C; 646 62D; 646 62E; 646 645; 646 647; 647 62C",
    " 647 645; 647 670; 64A 62C; 64A 62D; 64A 62E; 64A 645; 64A 647; 64A 654 645; 64A 654 647; 628 645",
    " 628 647; 62A 645; 62A 647; 62B 645; 62B 647; 633 645; 633 647; 634 645; 634 647; 643 644; 643 645",
    " 644 645; 646 645; 646 647; 64A 645; 64A 647; 640 64E 651; 640 64F 651; 640 650 651; 637 649; 637 64A",
    " 639 649; 639 64A; 63A 649; 63A 64A; 633 649; 633 64A; 634 649; 634 64A; 62D 649; 62D 64A; 62C 649",
    " 62C 64A; 62E 649; 62E 64A; 635 649; 635 64A; 636 649; 636 64A; 634 62C; 634 62D; 634 62E; 634 645",
    " 634 631; 633 631; 635 631; 636 631; 637 649; 637 64A; 639 649; 639 64A; 63A 649; 63A 64A; 633 649",
    " 633 64A; 634 649; 634 64A; 62D 649; 62D 64A; 62C 649; 62C 64A; 62E 649; 62E 64A; 635 649; 635 64A",
    " 636 649; 636 64A; 634 62C; 634 62D; 634 62E; 634 645; 634 631; 633 631; 635 631; 636 631; 634 62C",
    " 634 62D; 634 62E; 634 645; 633 647; 634 647; 637 645; 633 62C; 633 62D; 633 62E; 634 62C; 634 62D",
    " 634 62E; 637 645; 638 645; 627 64B; 627 64B;13 62A 62C 645; 62A 62D 62C; 62A 62D 62C; 62A 62D 645",
    " 62A 62E 645; 62A 645 62C; 62A 645 62D; 62A 645 62E; 62C 645 62D; 62C 645 62D; 62D 645 64A; 62D 645 649",
    " 633 62D 62C; 633 62C 62D; 633 62C 649; 633 645 62D; 633 645 62D; 633 645 62C; 633 645 645; 633 645 645",
    " 635 62D 62D; 635 62D 62D; 635 645 645; 634 62D 645; 634 62D 645; 634 62C 64A; 634 645 62E; 634 645 62E",
    " 634 645 645; 634 645 645; 636 62D 649; 636 62E 645; 636 62E 645; 637 645 62D; 637 645 62D; 637 645 645",
    " 637 645 64A; 639 62C 645; 639 645 645; 639 645 645; 639 645 649; 63A 645 645; 63A 645 64A; 63A 645 649",
    " 641 62E 645; 641 62E 645; 642 645 62D; 642 645 645; 644 62D 645; 644 62D 64A; 644 62D 649; 644 62C 62C",
    " 644 62C 62C; 644 62E 645; 644 62E 645; 644 645 62D; 644 645 62D; 645 62D 62C; 645 62D 645; 645 62D 64A",
    " 645 62C 62D; 645 62C 645; 645 62E 62C; 645 62E 645;3 645 62C 62E; 647 645 62C; 647 645 645; 646 62D 645",
    " 646 62D 649; 646 62C 645; 646 62C 645; 646 62C 649; 646 645 64A; 646 645 649; 64A 645 645; 64A 645 645",
    " 628 62E 64A; 62A 62C 64A; 62A 62C 649; 62A 62E 64A; 62A 62E 649; 62A 645 64A; 62A 645 649; 62C 645 64A",
    " 62C 62D 649; 62C 645 649; 633 62E 649; 635 62D 64A; 634 62D 64A; 636 62D 64A; 644 62C 64A; 644 645 64A",
    " 64A 62D 64A; 64A 62C 64A; 64A 645 64A; 645 645 64A; 642 645 64A; 646 62D 64A; 642 645 62D; 644 62D 645",
    " 639 645 64A; 643 645 64A; 646 62C 62D; 645 62E 64A; 644 62C 645; 643 645 645; 644 62C 645; 646 62C 62D",
    " 62C 62D 64A; 62D 62C 64A; 645 62C 64A; 641 645 64A; 628 62D 64A; 643 645 645; 639 62C 645; 635 645 645",
    " 633 62E 64A; 646 62C 64A;29 635 644 6D2; 642 644 6D2; 627 644 644 647; 627 643 628 631; 645 62D 645 62F",
    " 635 644 639 645; 631 633 648 644; 639 644 64A 647; 648 633 644 645; 635 644 649;78 640 64B;6 640 64E",
    "2 640 64F;2 640 650;2 640 651;2 640 652;2 627 653; 627 653; 627 654; 627 654; 648 654; 648 654; 627 655",
    " 627 655; 64A 654; 64A 654; 64A 654; 64A 654;69 644 627 653; 644 627 653; 644 627 654; 644 627 654",
    " 644 627 655; 644 627 655; 644 627; 644 627;1232 11131 11127; 11132 11127"]

/-- First code point, class and length of each run of one combining class. -/
def combiningClasses : List String :=
  ["300 E6 15;15 E8; DC 4;4 E8; D8; DC 5;5 CA 2;2 DC 4;4 CA 2;2 DC B;B 1 5;5 DC 4;4 E6 8;8 F0; E6; DC 3",
    "3 E6 3;3 DC 2;3 E6 3;3 DC 4;4 E6; E8; DC 2;2 E6; E9; EA 2;2 E9; EA 2;2 E9; E6 D;120 E6 5;10E DC; E6 4",
    "4 DC; E6 3;3 DE; DC; E6 6;6 DC 6;6 E6 2;2 DC; E6 2;2 DE; E4; E6; A; B; C; D; E; F; 10; 11; 12; 13 2;2 14",
    " 15; 16;2 17;2 18; 19;2 E6; DC;2 12;49 E6 8;8 1E; 1F; 20;31 1B; 1C; 1D; 1E; 1F; 20; 21; 22; E6 2;2 DC 2",
    "2 E6 5;5 DC; E6 2;2 DC;11 23;66 E6 7;9 E6 4;4 DC; E6;3 E6 2;3 DC; E6 2;2 DC;24 24;1F E6; DC; E6 2;2 DC",
    " E6 2;2 DC 3;3 E6; DC 2;2 E6; DC; E6 3;3 DC; E6; DC; E6; DC; E6; DC; E6 2;A2 E6 7;7 DC; E6;A DC;19 E6 4",
    "5 E6 9;A E6 3;4 E6 5;30 DC 3;3F E6; DC 3;3 E6 4;2E E6 5;5 DC 5;5 E6 E;F DC; E6 2;2 DC; E6 2;2 DC; E6 3",
    "3 DC 3;3 1B; 1C; 1D; E6 3;3 DC; E6 2;2 DC 2;2 E6 5;41 7;11 9;4 E6; DC; E6 2;69 7;11 9;31 E6;3E 7;11 9",
    "6F 7;11 9;6F 7;11 9;80 9;6F 7;11 9;8 54; 5B;66 7;11 9;6E 9 2;12 9;7D 9;6E 67 2;2 9;E 6B 4;70 76 2;2 9",
    "E 7A 4;50 DC 2;1D DC;2 DC;2 D8;38 81; 82;2 84;6 82 4;6 82;2 E6 2;2 9;2 E6 2;40 DC;71 7;2 9 2;54 DC",
    "2D0 E6 3;3B7 9 2;20 9;9E 9;B E6;CC E4;90 DE; E6; DC;DC E6; DC;48 9;15 E6 8;A DC;31 E6 5;5 DC 6;6 E6 2",
    "2 DC;2 DC 2;2 E6 2;2 DC 2;2 E6 5;5 DC; E6 4;69 7;10 9;27 E6; DC; E6 7;3D 9 2;3C 7;C 9 2;45 7;99 E6 3;4 1",
    " DC 5;5 E6 2;2 DC 4;4 E6;2 1 7;B DC;7 E6;4 E6 2;C8 E6 2;2 DC; E6 7;7 DC; E6 2;2 EA; D6; DC; CA; E6 25",
    "25 E8; E4 2;2 DC; DA; E6; E9; DC; E6; DC;2D1 E6 2;2 1 2;2 E6 4;4 1 3;3 E6 2;6 E6;4 1 2;2 E6; DC; E6; 1 2",
    "2 DC 4;4 E6;BFF E6 3;90 9;61 E6 20;24A DA; E4; E8; DE; E0 2;6B 8 2;75D6 E6;5 E6 A;2A E6 2;52 E6 2;116 9",
    "26 9;98 9;1C E6 12;4B DC 3;28 9;60 7;D 9;F0 E6;2 E6 2;2 DC;3 E6 2;7 E6 2;3 E6;35 9;F7 9;4F31 1A;302 E6 7",
    "7 DC 7;7 E6 2;3CF DC;E3 DC;96 E6 5;697 DC;2 E6;29 E6; 1; DC;5 9;A6 E6; DC;23E E6 4;187 E6 2;9B DC 2",
    "2 E6 3;3 DC; E6; DC 4;35 E6; DC; E6; DC;C1 9;2A 9;F 9;3A 9; 7;46 E6 3;33 9 2;40 7;4D 9;A 7;6B 9; 7;B3 7",
    " 9;51 7 2;12 9;19 E6 7;A E6 5;D2 9;4 7;18 E6;64 9; 7;FC 9; 7;7F 9;77 9; 7;74 9;10E 9; 7;103 9 2;6 7;9D 9",
    "54 9;13 9;52 9;1A6 9;103 7;2 9 2;53 9;4D59 1 5;40 E6 7;4C0 6 2;4CAE 1;14C7 D8 2;2 1 3;6 E2; D8 5;D DC 8",
    "A E6 5;5 DC 2;20 E6 4;98 E6 3;DBE E6 7;8 E6 11;13 E6 7;8 E6 2;3 E6 5;10A E6 7;17E E6;3E E6 4;5E4 DC 7",
    "74 E6 6;6 7"]

/-- Each primary composite with its two parts. -/
def primaryComposites : List String :=
  ["C0 41 300; 41 301; 41 302; 41 303; 41 308; 41 30A;2 43 327; 45 300; 45 301; 45 302; 45 308; 49 300",
    " 49 301; 49 302; 49 308;2 4E 303; 4F 300; 4F 301; 4F 302; 4F 303; 4F 308;3 55 300; 55 301; 55 302",
    " 55 308; 59 301;3 61 300; 61 301; 61 302; 61 303; 61 308; 61 30A;2 63 327; 65 300; 65 301; 65 302",
    " 65 308; 69 300; 69 301; 69 302; 69 308;2 6E 303; 6F 300; 6F 301; 6F 302; 6F 303; 6F 308;3 75 300",
    " 75 301; 75 302; 75 308; 79 301;2 79 308; 41 304; 61 304; 41 306; 61 306; 41 328; 61 328; 43 301; 63 301",
    " 43 302; 63 302; 43 307; 63 307; 43 30C; 63 30C; 44 30C; 64 30C;3 45 304; 65 304; 45 306; 65 306; 45 307",
    " 65 307; 45 328; 65 328; 45 30C; 65 30C; 47 302; 67 302; 47 306; 67 306; 47 307; 67 307; 47 327; 67 327",
    " 48 302; 68 302;3 49 303; 69 303; 49 304; 69 304; 49 306; 69 306; 49 328; 69 328; 49 307;4 4A 302",
    " 6A 302; 4B 327; 6B 327;2 4C 301; 6C 301; 4C 327; 6C 327; 4C 30C; 6C 30C;5 4E 301; 6E 301; 4E 327",
    " 6E 327; 4E 30C; 6E 30C;4 4F 304; 6F 304; 4F 306; 6F 306; 4F 30B; 6F 30B;3 52 301; 72 301; 52 327",
    " 72 327; 52 30C; 72 30C; 53 301; 73 301; 53 302; 73 302; 53 327; 73 327; 53 30C; 73 30C; 54 327; 74 327",
    " 54 30C; 74 30C;3 55 303; 75 303; 55 304; 75 304; 55 306; 75 306; 55 30A; 75 30A; 55 30B; 75 30B; 55 328",
    " 75 328; 57 302; 77 302; 59 302; 79 302; 59 308; 5A 301; 7A 301; 5A 307; 7A 307; 5A 30C; 7A 30C",
    "22 4F 31B; 6F 31B;E 55 31B; 75 31B;1D 41 30C; 61 30C; 49 30C; 69 30C; 4F 30C; 6F 30C; 55 30C; 75 30C",
    " DC 304; FC 304; DC 301; FC 301; DC 30C; FC 30C; DC 300; FC 300;2 C4 304; E4 304; 226 304; 227 304",
    " C6 304; E6 304;3 47 30C; 67 30C; 4B 30C; 6B 30C; 4F 328; 6F 328; 1EA 304; 1EB 304; 1B7 30C; 292 30C",
    " 6A 30C;4 47 301; 67 301;3 4E 300; 6E 300; C5 301; E5 301; C6 301; E6 301; D8 301; F8 301; 41 30F",
    " 61 30F; 41 311; 61 311; 45 30F; 65 30F; 45 311; 65 311; 49 30F; 69 30F; 49 311; 69 311; 4F 30F; 6F 30F",
    " 4F 311; 6F 311; 52 30F; 72 30F; 52 311; 72 311; 55 30F; 75 30F; 55 311; 75 311; 53 326; 73 326; 54 326",
    " 74 326;3 48 30C; 68 30C;7 41 307; 61 307; 45 327; 65 327; D6 304; F6 304; D5 304; F5 304; 4F 307",
    " 6F 307; 22E 304; 22F 304; 59 304; 79 304;152 A8 301; 391 301;2 395 301; 397 301; 399 301;2 39F 301",
    "2 3A5 301; 3A9 301; 3CA 301;1A 399 308; 3A5 308; 3B1 301; 3B5 301; 3B7 301; 3B9 301; 3CB 301;1A 3B9 308",
    " 3C5 308; 3BF 301; 3C5 301; 3C9 301;5 3D2 301; 3D2 308;2C 415 300; 415 308;2 413 301;4 406 308;5 41A 301",
    " 418 300; 423 306;B 418 306;20 438 306;17 435 300; 435 308;2 433 301;4 456 308;5 43A 301; 438 300",
    " 443 306;18 474 30F; 475 30F;4A 416 306; 436 306;E 410 306; 430 306; 410 308; 430 308;3 415 306; 435 306",
    "3 4D8 308; 4D9 308; 416 308; 436 308; 417 308; 437 308;3 418 304; 438 304; 418 308; 438 308; 41E 308",
    " 43E 308;3 4E8 308; 4E9 308; 42D 308; 44D 308; 423 304; 443 304; 423 308; 443 308; 423 30B; 443 30B",
    " 427 308; 447 308;3 42B 308; 44B 308;129 627 653; 627 654; 648 654; 627 655; 64A 654;9A 6D5 654",
    "2 6C1 654;11 6D2 654;256 928 93C;8 930 93C;3 933 93C;97 9C7 9BE; 9C7 9D7;17C B47 B56;3 B47 B3E; B47 B57",
    "48 B92 BD7;36 BC6 BBE; BC7 BBE; BC6 BD7;7C C46 C56;78 CBF CD5;7 CC6 CD5; CC6 CD6;2 CC6 CC2; CCA CD5",
    "7F D46 D3E; D47 D3E; D46 D57;8E DD9 DCA;2 DD9 DCF; DDC DCA; DD9 DDF;248 1025 102E;AE0 1B05 1B35",
    "2 1B07 1B35;2 1B09 1B35;2 1B0B 1B35;2 1B0D 1B35;4 1B11 1B35;29 1B3A 1B35;2 1B3C 1B35;3 1B3E 1B35",
    " 1B3F 1B35;2 1B42 1B35;2BD 41 325; 61 325; 42 307; 62 307; 42 323; 62 323; 42 331; 62 331; C7 301",
    " E7 301; 44 307; 64 307; 44 323; 64 323; 44 331; 64 331; 44 327; 64 327; 44 32D; 64 32D; 112 300",
    " 113 300; 112 301; 113 301; 45 32D; 65 32D; 45 330; 65 330; 228 306; 229 306; 46 307; 66 307; 47 304",
    " 67 304; 48 307; 68 307; 48 323; 68 323; 48 308; 68 308; 48 327; 68 327; 48 32E; 68 32E; 49 330; 69 330",
    " CF 301; EF 301; 4B 301; 6B 301; 4B 323; 6B 323; 4B 331; 6B 331; 4C 323; 6C 323; 1E36 304; 1E37 304",
    " 4C 331; 6C 331; 4C 32D; 6C 32D; 4D 301; 6D 301; 4D 307; 6D 307; 4D 323; 6D 323; 4E 307; 6E 307; 4E 323",
    " 6E 323; 4E 331; 6E 331; 4E 32D; 6E 32D; D5 301; F5 301; D5 308; F5 308; 14C 300; 14D 300; 14C 301",
    " 14D 301; 50 301; 70 301; 50 307; 70 307; 52 307; 72 307; 52 323; 72 323; 1E5A 304; 1E5B 304; 52 331",
    " 72 331; 53 307; 73 307; 53 323; 73 323; 15A 307; 15B 307; 160 307; 161 307; 1E62 307; 1E63 307; 54 307",
    " 74 307; 54 323; 74 323; 54 331; 74 331; 54 32D; 74 32D; 55 324; 75 324; 55 330; 75 330; 55 32D; 75 32D",
    " 168 301; 169 301; 16A 308; 16B 308; 56 303; 76 303; 56 323; 76 323; 57 300; 77 300; 57 301; 77 301",
    " 57 308; 77 308; 57 307; 77 307; 57 323; 77 323; 58 307; 78 307; 58 308; 78 308; 59 307; 79 307; 5A 302",
    " 7A 302; 5A 323; 7A 323; 5A 331; 7A 331; 68 331; 74 308; 77 30A; 79 30A;2 17F 307;5 41 323; 61 323",
    " 41 309; 61 309; C2 301; E2 301; C2 300; E2 300; C2 309; E2 309; C2 303; E2 303; 1EA0 302; 1EA1 302",
    " 102 301; 103 301; 102 300; 103 300; 102 309; 103 309; 102 303; 103 303; 1EA0 306; 1EA1 306; 45 323",
    " 65 323; 45 309; 65 309; 45 303; 65 303; CA 301; EA 301; CA 300; EA 300; CA 309; EA 309; CA 303; EA 303",
    " 1EB8 302; 1EB9 302; 49 309; 69 309; 49 323; 69 323; 4F 323; 6F 323; 4F 309; 6F 309; D4 301; F4 301",
    " D4 300; F4 300; D4 309; F4 309; D4 303; F4 303; 1ECC 302; 1ECD 302; 1A0 301; 1A1 301; 1A0 300; 1A1 300",
    " 1A0 309; 1A1 309; 1A0 303; 1A1 303; 1A0 323; 1A1 323; 55 323; 75 323; 55 309; 75 309; 1AF 301; 1B0 301",
    " 1AF 300; 1B0 300; 1AF 309; 1B0 309; 1AF 303; 1B0 303; 1AF 323; 1B0 323; 59 300; 79 300; 59 323; 79 323",
    " 59 309; 79 309; 59 303; 79 303;7 3B1 313; 3B1 314; 1F00 300; 1F01 300; 1F00 301; 1F01 301; 1F00 342",
    " 1F01 342; 391 313; 391 314; 1F08 300; 1F09 300; 1F08 301; 1F09 301; 1F08 342; 1F09 342; 3B5 313",
    " 3B5 314; 1F10 300; 1F11 300; 1F10 301; 1F11 301;3 395 313; 395 314; 1F18 300; 1F19 300; 1F18 301",
    " 1F19 301;3 3B7 313; 3B7 314; 1F20 300; 1F21 300; 1F20 301; 1F21 301; 1F20 342; 1F21 342; 397 313",
    " 397 314; 1F28 300; 1F29 300; 1F28 301; 1F29 301; 1F28 342; 1F29 342; 3B9 313; 3B9 314; 1F30 300",
    " 1F31 300; 1F30 301; 1F31 301; 1F30 342; 1F31 342; 399 313; 399 314; 1F38 300; 1F39 300; 1F38 301",
    " 1F39 301; 1F38 342; 1F39 342; 3BF 313; 3BF 314; 1F40 300; 1F41 300; 1F40 301; 1F41 301;3 39F 313",
    " 39F 314; 1F48 300; 1F49 300; 1F48 301; 1F49 301;3 3C5 313; 3C5 314; 1F50 300; 1F51 300; 1F50 301",
    " 1F51 301; 1F50 342; 1F51 342;2 3A5 314;2 1F59 300;2 1F59 301;2 1F59 342; 3C9 313; 3C9 314; 1F60 300",
    " 1F61 300; 1F60 301; 1F61 301; 1F60 342; 1F61 342; 3A9 313; 3A9 314; 1F68 300; 1F69 300; 1F68 301",
    " 1F69 301; 1F68 342; 1F69 342; 3B1 300;2 3B5 300;2 3B7 300;2 3B9 300;2 3BF 300;2 3C5 300;2 3C9 300",
    "4 1F00 345; 1F01 345; 1F02 345; 1F03 345; 1F04 345; 1F05 345; 1F06 345; 1F07 345; 1F08 345; 1F09 345",
    " 1F0A 345; 1F0B 345; 1F0C 345; 1F0D 345; 1F0E 345; 1F0F 345; 1F20 345; 1F21 345; 1F22 345; 1F23 345",
    " 1F24 345; 1F25 345; 1F26 345; 1F27 345; 1F28 345; 1F29 345; 1F2A 345; 1F2B 345; 1F2C 345; 1F2D 345",
    " 1F2E 345; 1F2F 345; 1F60 345; 1F61 345; 1F62 345; 1F63 345; 1F64 345; 1F65 345; 1F66 345; 1F67 345",
    " 1F68 345; 1F69 345; 1F6A 345; 1F6B 345; 1F6C 345; 1F6D 345; 1F6E 345; 1F6F 345; 3B1 306; 3B1 304",
    " 1F70 345; 3B1 345; 3AC 345;2 3B1 342; 1FB6 345; 391 306; 391 304; 391 300;2 391 345;5 A8 342; 1F74 345",
    " 3B7 345; 3AE 345;2 3B7 342; 1FC6 345; 395 300;2 397 300;2 397 345; 1FBF 300; 1FBF 301; 1FBF 342",
    " 3B9 306; 3B9 304; 3CA 300;4 3B9 342; 3CA 342; 399 306; 399 304; 399 300;3 1FFE 300; 1FFE 301; 1FFE 342",
    " 3C5 306; 3C5 304; 3CB 300;2 3C1 313; 3C1 314; 3C5 342; 3CB 342; 3A5 306; 3A5 304; 3A5 300;2 3A1 314",
    " A8 300;5 1F7C 345; 3C9 345; 3CE 345;2 3C9 342; 1FF6 345; 39F 300;2 3A9 300;2 3A9 345;19E 2190 338",
    " 2192 338;13 2194 338;1F 21D0 338; 21D4 338; 21D2 338;35 2203 338;5 2208 338;3 220B 338;18 2223 338",
    "2 2225 338;1B 223C 338;3 2243 338;3 2245 338;2 2248 338;17 3D 338;2 2261 338;B 224D 338; 3C 338; 3E 338",
    " 2264 338; 2265 338;3 2272 338; 2273 338;3 2276 338; 2277 338;7 227A 338; 227B 338;3 2282 338; 2283 338",
    "3 2286 338; 2287 338;23 22A2 338; 22A8 338; 22A9 338; 22AB 338;31 227C 338; 227D 338; 2291 338; 2292 338",
    "7 22B2 338; 22B3 338; 22B4 338; 22B5 338;D5F 304B 3099;2 304D 3099;2 304F 3099;2 3051 3099;2 3053 3099",
    "2 3055 3099;2 3057 3099;2 3059 3099;2 305B 3099;2 305D 3099;2 305F 3099;2 3061 3099;3 3064 3099",
    "2 3066 3099;2 3068 3099;7 306F 3099; 306F 309A;2 3072 3099; 3072 309A;2 3075 3099; 3075 309A;2 3078 3099",
    " 3078 309A;2 307B 3099; 307B 309A;17 3046 3099;A 309D 3099;E 30AB 3099;2 30AD 3099;2 30AF 3099",
    "2 30B1 3099;2 30B3 3099;2 30B5 3099;2 30B7 3099;2 30B9 3099;2 30BB 3099;2 30BD 3099;2 30BF 3099",
    "2 30C1 3099;3 30C4 3099;2 30C6 3099;2 30C8 3099;7 30CF 3099; 30CF 309A;2 30D2 3099; 30D2 309A",
    "2 30D5 3099; 30D5 309A;2 30D8 3099; 30D8 309A;2 30DB 3099; 30DB 309A;17 30A6 3099;3 30EF 3099; 30F0 3099",
    " 30F1 3099; 30F2 3099;4 30FD 3099;DF9C 11099 110BA;2 1109B 110BA;F 110A5 110BA;83 11131 11127",
    " 11132 11127;21C 11347 1133E; 11347 11357;16F 114B9 114BA; 114B9 114B0;2 114B9 114BD;FC 115B8 115AF",
    " 115B9 115AF;37D 11935 11930"]

end ChangeReview.Text
